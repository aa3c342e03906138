import ImageFiling.Config.Fault
import ImageFiling.Files.Basic
import ImageFiling.Image.Fault
import ImageFiling.Image.Size
import ImageFiling.Naming.Fault
import ImageFiling.Settings.Logging
import ImageFiling.Signing.SignatureV4
import ImageFiling.Storage.Fault

/-!
# Failures

Why a session ended without a result. The kind of a failure says how it is reported: most kinds are
told to the user by name and message, the others end the program.
-/

namespace ImageFiling

inductive Failure where
  | naming (f : NamingFault)
  | config (f : ConfigFault)
  | storage (f : StorageFault)
  | signing (f : SignatureV4.Fault)
  | image (f : ImageFault)
  | file (f : FileFault)
  | settings (f : SettingsFault)
  | logging (f : LoggingFault)
  | size (f : Size.Fault)
  | noCipher
  | remoteId
  | refusal (reason : Text)
  /-- The library that sends requests ended in a way of its own. -/
  | raised (reason : Text)

inductive FailureKind where
  | permanent
  | transient
  | config
  | template
  | resolution
  | upload
  | network
  | value
  | overflow
  | fileSystem
  | shape
  | raised
  deriving DecidableEq, Repr

namespace FailureKind

def name? : FailureKind → Option Text
  | permanent => some "PermanentError"
  | transient => some "TransientError"
  | config => some "ConfigError"
  | template => some "TemplateError"
  | resolution => some "TemplateResolutionError"
  | upload => some "UploadError"
  | network => some "UploadNetworkError"
  | _ => none

def isTransient : FailureKind → Bool
  | transient | network => true
  | _ => false

end FailureKind

def TimeFault.kind : TimeFault → FailureKind
  | firstDay | lastDay => .value
  | outsideCalendar => .overflow

def NamingFault.kind : NamingFault → FailureKind
  | malformed _ | unsupported _ | notAbsolute _ | pattern _ => .template
  | missingFormat _ | shortPath _ | badPathNumber _ | noSegment _ _ | noQueryValue _ => .resolution
  | longPathNumber _ | noPreview | url _ => .value
  | time f => f.kind

def SignatureV4.Fault.kind : SignatureV4.Fault → FailureKind
  | url _ => .value
  | time f => f.kind

def StorageFault.kind (f : StorageFault) : FailureKind :=
  match f with
  | infiniteId => .overflow
  | f => if f.isTransient then .network else .upload

def SettingsFault.kind : SettingsFault → FailureKind
  | file _ => .fileSystem
  | notUtf8 => .value

namespace Failure

def kind : Failure → FailureKind
  | naming f => f.kind
  | config _ => .config
  | storage f => f.kind
  | signing f => f.kind
  | image f => if f.isTransient then .transient else .permanent
  | file _ => .fileSystem
  | settings f => f.kind
  | logging _ => .value
  | size _ => .overflow
  | noCipher | refusal _ => .permanent
  | remoteId => .shape
  | raised _ => .raised

def message : Failure → Text
  | naming f => f.message
  | config f => f.message
  | storage f => f.message
  | signing f => f.message
  | image f => f.message
  | file f => f.message
  | settings f => f.message
  | logging f => f.message
  | size f => f.message
  | noCipher => "Encryption is required by the template but no cipher is available."
  | remoteId => "the remote id is not a text"
  | refusal reason => reason
  | raised reason => reason

end Failure

end ImageFiling
