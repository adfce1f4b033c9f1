import AssistedInstaller.Go.Prog
import Mathlib.Data.List.Basic

/-
  AssistedInstaller.Utils.Operators — `utils.ClusterOperatorConditionsToMonitoredOperatorStatus`
  and `utils.CsvStatusToOperatorStatus`, the maps from cluster-API signals to the status
  the controller reports for a monitored operator.

  The conditions are scanned in list order and the first condition with status True
  whose type is Available, Progressing or Degraded (`Decisive`) decides
  (`conditionsStatus_eq_find`). So the status is Available exactly when that first
  decisive condition is Available=True (`conditionsStatus_available_iff`): a
  Degraded=True or Progressing=True condition later in the list does not stop it
  (`available_with_degraded_true`).
-/

namespace AssistedInstaller

/-- `configv1.ClusterOperatorStatusCondition`. -/
structure ClusterOperatorStatusCondition where
  type : String
  status : String
  message : String
  deriving DecidableEq, Repr

def operatorAvailable : String := "Available"
def operatorProgressing : String := "Progressing"
def operatorDegraded : String := "Degraded"
def conditionTrue : String := "True"

/-- `models.OperatorStatus`. -/
inductive OperatorStatus where
  | progressing
  | available
  | failed
  deriving DecidableEq, Repr

def csvStatusToOperatorStatus (csvStatus : String) : OperatorStatus :=
  if csvStatus = "Succeeded" then .available
  else if csvStatus = "Failed" then .failed
  else .progressing

def clusterOperatorConditionsToMonitoredOperatorStatus :
    List ClusterOperatorStatusCondition → OperatorStatus × String
  | [] => (.progressing, "")
  | c :: cs =>
    if c.type = operatorAvailable ∧ c.status = conditionTrue then (.available, c.message)
    else if c.type = operatorProgressing ∧ c.status = conditionTrue then (.progressing, c.message)
    else if c.type = operatorDegraded ∧ c.status = conditionTrue then (.failed, c.message)
    else clusterOperatorConditionsToMonitoredOperatorStatus cs

/-- A condition the scan stops at. -/
def Decisive (c : ClusterOperatorStatusCondition) : Bool :=
  c.status = conditionTrue ∧
    (c.type = operatorAvailable ∨ c.type = operatorProgressing ∨ c.type = operatorDegraded)

/-- The status a decisive condition's type stands for. -/
def statusOfType (type : String) : OperatorStatus :=
  if type = operatorAvailable then .available
  else if type = operatorProgressing then .progressing
  else .failed

theorem conditionsStatus_eq_find (cs : List ClusterOperatorStatusCondition) :
    clusterOperatorConditionsToMonitoredOperatorStatus cs =
      match cs.find? Decisive with
      | some c => (statusOfType c.type, c.message)
      | none => (.progressing, "") := by
  induction cs with
  | nil => rfl
  | cons c cs ih =>
    by_cases ha : c.type = operatorAvailable <;> by_cases hp : c.type = operatorProgressing <;>
      by_cases hd : c.type = operatorDegraded <;> by_cases ht : c.status = conditionTrue <;>
      simp_all [clusterOperatorConditionsToMonitoredOperatorStatus, Decisive, statusOfType,
        List.find?_cons, operatorAvailable, operatorProgressing, operatorDegraded]

theorem conditionsStatus_available_iff (cs : List ClusterOperatorStatusCondition) :
    (clusterOperatorConditionsToMonitoredOperatorStatus cs).1 = .available ↔
      ∃ pre c post, cs = pre ++ c :: post ∧ c.type = operatorAvailable ∧ c.status = conditionTrue ∧
        ∀ d ∈ pre, Decisive d = false := by
  rw [conditionsStatus_eq_find]
  constructor
  · intro h
    split at h
    · rename_i c hc
      obtain ⟨hdc, pre, post, rfl, hpre⟩ := List.find?_eq_some.mp hc
      refine ⟨pre, c, post, rfl, ?_, ?_, fun d hd => by simpa using hpre d hd⟩
      · simp only [statusOfType] at h
        split_ifs at h with h₁
        exact h₁
      · simp [Decisive] at hdc; exact hdc.1
    · cases h
  · rintro ⟨pre, c, post, rfl, hty, hst, hpre⟩
    have hc : (pre ++ c :: post).find? Decisive = some c :=
      List.find?_eq_some.mpr ⟨by simp [Decisive, hty, hst], pre, post, rfl,
        fun d hd => by simpa using hpre d hd⟩
    simp [hc, statusOfType, hty]

/-- Available=True then Degraded=True: reported Available. -/
theorem available_with_degraded_true :
    (clusterOperatorConditionsToMonitoredOperatorStatus
        [⟨operatorAvailable, conditionTrue, ""⟩, ⟨operatorDegraded, conditionTrue, ""⟩]).1 = .available ∧
      ∃ c ∈ [(⟨operatorAvailable, conditionTrue, ""⟩ : ClusterOperatorStatusCondition),
        ⟨operatorDegraded, conditionTrue, ""⟩], c.type = operatorDegraded ∧ c.status = conditionTrue :=
  ⟨by decide, _, List.mem_cons_of_mem _ (List.mem_singleton_self _), rfl, rfl⟩

end AssistedInstaller
