import ImageFiling.Json.Display

/-!
# Faults of storage services

Why a storage service did not do what it was asked. A fault is transient if the request never led to
an answer that can be used.
-/

namespace ImageFiling

inductive StorageFault where
  | status (action : Text) (status : Int) (detail : Text)
  | rejected (action : Text) (status detail : Json)
  /-- A list of folders that is none. -/
  | listing (folder : Int) (answer : Json)
  | unknownAnswer (answer : Json)
  | connection (reason : Text)
  | unreadable (reason : Text)
  | unreadableBuckets
  /-- A list of folders with an entry that is none. -/
  | folderEntry (folders : Json)
  | createdFolder (answer : Json)
  | infiniteId

namespace StorageFault

def message : StorageFault → Text
  | status action code detail =>
    "Failed to " ++ action ++ " (HTTP " ++ Text.signed code ++ "): " ++ detail
  | rejected action code detail =>
    "Failed to " ++ action ++ " (status: " ++ code.display ++ "): " ++ detail.display
  | listing folder answer =>
    "Unknown response from server while listing folder " ++ Text.signed folder ++ ": " ++
      answer.display
  | unknownAnswer answer => "Unknown response from server: " ++ answer.display
  | connection reason => "Unknown error: " ++ reason
  | unreadable reason => "Unknown error: " ++ reason
  | unreadableBuckets => "Unknown error: the list of buckets is no XML document"
  | folderEntry folders => "Unknown error: unexpected folder entry in " ++ folders.display
  | createdFolder answer =>
    "Unknown error: unexpected create folder response " ++ answer.display
  | infiniteId => "cannot convert float infinity to integer"

def isTransient : StorageFault → Bool
  | connection _ | unreadable _ | unreadableBuckets | folderEntry _ | createdFolder _ => true
  | _ => false

/-- The status that the service gave, or null. -/
def statusGiven : StorageFault → Json
  | status _ code _ => .ofInt code
  | rejected _ code _ => code
  | _ => .null

end StorageFault

end ImageFiling
