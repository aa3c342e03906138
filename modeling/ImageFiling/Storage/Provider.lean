import ImageFiling.Config.Basic
import ImageFiling.Storage.FolderService
import ImageFiling.Storage.ObjectStore

/-!
# The client of a configuration
-/

namespace ImageFiling

def Provider.client {σ : Type} : Provider → StorageClient σ
  | fileLu a => FolderService.client a
  | fileLuS5 a => (ObjectStore.ofAccess a).client
  | awsS3 a => (ObjectStore.ofAccount a).client

def Config.openProvider {σ : Type} (c : Config) : Session σ (Option Provider) := do
  match c.provider with
  | none =>
    Session.note .critical "No storage provider defined in the configuration."
    return none
  | some p =>
    Session.note .info ("Using " ++ p.displayName ++ " storage provider.")
    return some p

end ImageFiling
