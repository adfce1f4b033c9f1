import AssistedInstaller.Go.Prog
import Mathlib.Data.List.Basic

/-
  AssistedInstaller.Utils.Lists — three list helpers of `utils`:
  `FindAndRemoveElementFromStringList`, `GetFileContentFromIgnition` and
  `GetHostIpsFromInventory`.

  Both are Go loops that return from inside the loop. Said without the loop:
  - `findAndRemoveElementFromStringList_eq_erase`: the list without the first element
    equal to `r`, the list itself when there is none (`List.erase`).
  - `getFileContentFromIgnition_eq_find`: the first file of the parsed config with the
    path asked for, decoded, or the error naming the path (`List.find?`); a nil
    `Contents.Source` on that file is dereferenced and panics (`none`).
  - `getHostIpsFromInventory_eq_mapM`: the parsed addresses of every interface in order,
    each interface's IPv4 addresses before its IPv6 ones, or the first parse error
    (`List.mapM` over all the addresses).
-/

namespace AssistedInstaller

/-! ## `FindAndRemoveElementFromStringList` -/

/-- `utils.FindAndRemoveElementFromStringList`: `append(s[:i], s[i+1:]...)` at the first `i`
with `s[i] == r`, else `s`. -/
def findAndRemoveElementFromStringList (s : List String) (r : String) : List String :=
  loop 0 s
where
  /-- The `range` loop from index `i`, `rest` being `s[i:]`. -/
  loop (i : Nat) : List String → List String
    | [] => s
    | v :: rest => if v = r then s.take i ++ s.drop (i + 1) else loop (i + 1) rest

theorem findAndRemoveElementFromStringList_loop (s : List String) (r : String) :
    ∀ (rest pre : List String), s = pre ++ rest → r ∉ pre →
      findAndRemoveElementFromStringList.loop s r pre.length rest = s.erase r
  | [], pre, hs, hr => by
    rw [findAndRemoveElementFromStringList.loop, List.erase_of_not_mem (by simpa [hs] using hr)]
  | v :: rest, pre, hs, hr => by
    rw [findAndRemoveElementFromStringList.loop]
    split
    · subst hs
      simp_all [List.erase_append_right _ hr]
    · have hlen : pre.length + 1 = (pre ++ [v]).length := by simp
      rw [hlen, findAndRemoveElementFromStringList_loop s r rest (pre ++ [v]) (by simp [hs])]
      simpa [eq_comm] using And.intro hr ‹¬v = r›

/-- The loop removes the first element equal to `r`: `List.erase`. -/
theorem findAndRemoveElementFromStringList_eq_erase (s : List String) (r : String) :
    findAndRemoveElementFromStringList s r = s.erase r :=
  findAndRemoveElementFromStringList_loop s r s [] rfl (List.not_mem_nil r)

/-! ## `GetFileContentFromIgnition` -/

/-- An entry of a parsed ignition config's `Storage.Files`: its path and its
`Contents.Source`, a `*string` holding a data URL, nil for a file given without contents. -/
structure IgnitionFile where
  path : String
  source : Option String
  deriving DecidableEq, Repr

/-- `utils.GetFileContentFromIgnition`; `parse` is `ignition.Parse` (the config's
`Storage.Files`, or its error) and `decodeString` is `dataurl.DecodeString` (the data, or
its error). The code dereferences `Contents.Source` of the matching file: on a nil source it
panics, which is `none` here. -/
def getFileContentFromIgnition (parse : List UInt8 → Except GoError (List IgnitionFile))
    (decodeString : String → Except GoError (List UInt8)) (ignitionData : List UInt8) (fileName : String) :
    Option (Except GoError (List UInt8)) :=
  match parse ignitionData with
  | .error err => some (.error err)
  | .ok files => loop files
where
  loop : List IgnitionFile → Option (Except GoError (List UInt8))
    | [] => some (.error ⟨"path " ++ fileName ++ " not found in ignition"⟩)
    | file :: files => if file.path = fileName then file.source.map decodeString else loop files

theorem getFileContentFromIgnition_loop (decodeString : String → Except GoError (List UInt8))
    (fileName : String) (files : List IgnitionFile) :
    getFileContentFromIgnition.loop decodeString fileName files =
      (match files.find? (·.path = fileName) with
      | some file => file.source.map decodeString
      | none => some (.error ⟨"path " ++ fileName ++ " not found in ignition"⟩)) := by
  induction files with
  | nil => rfl
  | cons file files ih =>
    rw [getFileContentFromIgnition.loop, List.find?_cons]
    by_cases h : file.path = fileName <;> simp [h, ih]

/-- The file read is the first entry of `Storage.Files` with the path asked for, decoded, and
the code panics (`none`) when that entry has no source; with no such entry the error names
the path, and a parse error is returned as it is. -/
theorem getFileContentFromIgnition_eq_find (parse : List UInt8 → Except GoError (List IgnitionFile))
    (decodeString : String → Except GoError (List UInt8)) (ignitionData : List UInt8) (fileName : String) :
    getFileContentFromIgnition parse decodeString ignitionData fileName =
      match parse ignitionData with
      | .error err => some (.error err)
      | .ok files => match files.find? (·.path = fileName) with
        | some file => file.source.map decodeString
        | none => some (.error ⟨"path " ++ fileName ++ " not found in ignition"⟩) := by
  unfold getFileContentFromIgnition
  cases parse ignitionData <;> simp only [getFileContentFromIgnition_loop]

example : getFileContentFromIgnition (fun _ => .ok [⟨"/pull-secret", none⟩]) (fun _ => .ok []) []
    "/pull-secret" = none := rfl

/-! ## `GetHostIpsFromInventory` -/

/-- An interface of `models.Inventory`: its addresses, in CIDR notation. -/
structure Interface where
  ipv4Addresses : List String
  ipv6Addresses : List String
  deriving DecidableEq, Repr

/-- `utils.GetHostIpsFromInventory` over `inventory.Interfaces`; `parseCIDR ip` is
`net.ParseCIDR(ip)`'s address as `parsedIp.String()`, or its error. -/
def getHostIpsFromInventory (parseCIDR : String → Except GoError String) (interfaces : List Interface) :
    Except GoError (List String) :=
  loop interfaces []
where
  loop : List Interface → List String → Except GoError (List String)
    | [], ips => .ok ips
    | netInt :: rest, ips => do
      let ips ← addresses (netInt.ipv4Addresses ++ netInt.ipv6Addresses) ips
      loop rest ips
  addresses : List String → List String → Except GoError (List String)
    | [], ips => .ok ips
    | ip :: rest, ips =>
      match parseCIDR ip with
      | .error err => .error err
      | .ok parsedIp => addresses rest (ips ++ [parsedIp])

section
variable (parseCIDR : String → Except GoError String)

theorem getHostIpsFromInventory_addresses (l ips : List String) :
    getHostIpsFromInventory.addresses parseCIDR l ips = (ips ++ ·) <$> l.mapM parseCIDR := by
  induction l generalizing ips with
  | nil => rw [getHostIpsFromInventory.addresses, List.mapM_nil, map_pure, List.append_nil]; rfl
  | cons ip rest ih =>
    rw [getHostIpsFromInventory.addresses, List.mapM_cons]
    cases parseCIDR ip with
    | error err => rfl
    | ok parsedIp =>
      show getHostIpsFromInventory.addresses parseCIDR rest (ips ++ [parsedIp]) = _
      rw [ih]
      cases rest.mapM parseCIDR with
      | error err => rfl
      | ok ps => exact congrArg Except.ok (List.append_assoc ips [parsedIp] ps)

theorem getHostIpsFromInventory_loop (interfaces : List Interface) (ips : List String) :
    getHostIpsFromInventory.loop parseCIDR interfaces ips =
      (ips ++ ·) <$> (interfaces.flatMap fun n => n.ipv4Addresses ++ n.ipv6Addresses).mapM parseCIDR := by
  induction interfaces generalizing ips with
  | nil => rw [getHostIpsFromInventory.loop, List.flatMap_nil, List.mapM_nil, map_pure, List.append_nil]; rfl
  | cons netInt rest ih =>
    rw [getHostIpsFromInventory.loop, List.flatMap_cons, List.mapM_append, getHostIpsFromInventory_addresses]
    cases (netInt.ipv4Addresses ++ netInt.ipv6Addresses).mapM parseCIDR with
    | error err => rfl
    | ok ps =>
      show getHostIpsFromInventory.loop parseCIDR rest (ips ++ ps) = _
      rw [ih]
      cases (rest.flatMap fun n => n.ipv4Addresses ++ n.ipv6Addresses).mapM parseCIDR with
      | error err => rfl
      | ok qs => exact congrArg Except.ok (List.append_assoc ips ps qs)

/-- The loop parses every address of every interface in order, IPv4 before IPv6, and stops at
the first parse error: `List.mapM` over all the addresses. -/
theorem getHostIpsFromInventory_eq_mapM (interfaces : List Interface) :
    getHostIpsFromInventory parseCIDR interfaces =
      (interfaces.flatMap fun n => n.ipv4Addresses ++ n.ipv6Addresses).mapM parseCIDR := by
  rw [getHostIpsFromInventory, getHostIpsFromInventory_loop]
  cases (interfaces.flatMap fun n => n.ipv4Addresses ++ n.ipv6Addresses).mapM parseCIDR <;> rfl

end

end AssistedInstaller
