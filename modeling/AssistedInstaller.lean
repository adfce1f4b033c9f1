import AssistedInstaller.Go.Prog
import AssistedInstaller.Model.Types
import AssistedInstaller.Model.Collaborators
import AssistedInstaller.Utils.Retry
import AssistedInstaller.Utils.Operators
import AssistedInstaller.Utils.Wait
import AssistedInstaller.Utils.Lists
import AssistedInstaller.Installer.Basic
import AssistedInstaller.Installer.Cleanup
import AssistedInstaller.Installer.Bootstrap
import AssistedInstaller.Installer.Masters
import AssistedInstaller.Installer.Configuring
import AssistedInstaller.Installer.ControlPlane
import AssistedInstaller.Installer.Worker
import AssistedInstaller.Installer.InstallNode
import AssistedInstaller.Installer.NodeEnd
import AssistedInstaller.Installer.Roles
import AssistedInstaller.Installer.Stages
import AssistedInstaller.Installer.Replicas
import AssistedInstaller.Installer.EtcdPatch
