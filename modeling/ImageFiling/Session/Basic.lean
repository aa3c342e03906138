import ImageFiling.Http.Message
import ImageFiling.Session.Failure
import ImageFiling.Settings.Logging
import ImageFiling.Time.Moment

/-!
# Sessions

A session talks to a world that answers requests and shows the time. It ends with a result or a
failure, and leaves behind the requests that it sent and the entries that it wrote to the log, in
order.
-/

namespace ImageFiling

/-- What a session talks to, with a state of its own: the library that sends requests, and the clock
of a local zone. -/
structure World (σ : Type) where
  serve : Http.Request → σ → Http.Reply × σ
  clock : σ → Moment

/-- How a session ended, and what it did until then. -/
structure Outcome (σ α : Type) where
  result : Except Failure α
  state : σ
  sent : List Http.Request
  log : List LogEntry

def Session (σ α : Type) := World σ → σ → Outcome σ α

namespace Session

variable {σ α β : Type}

def ended (result : Except Failure α) : Session σ α := fun _ s => ⟨result, s, [], []⟩

/-- One session after another; a failure of the first is that of both. -/
def andThen (x : Session σ α) (f : α → Session σ β) : Session σ β := fun w s =>
  let first := x w s
  match first.result with
  | .ok a =>
    let second := f a w first.state
    ⟨second.result, second.state, first.sent ++ second.sent, first.log ++ second.log⟩
  | .error e => ⟨.error e, first.state, first.sent, first.log⟩

instance : Monad (Session σ) where
  pure a := ended (.ok a)
  bind := andThen

def fail (f : Failure) : Session σ α := ended (.error f)

def lift (toFailure : ε → Failure) (x : Except ε α) : Session σ α := ended (x.mapError toFailure)

def send (r : Http.Request) : Session σ Http.Reply := fun w s =>
  let (reply, s) := w.serve r s
  ⟨.ok reply, s, [r], []⟩

def note (level : LogLevel) (message : Text) : Session σ Unit := fun _ s =>
  ⟨.ok (), s, [], [⟨level, message⟩]⟩

def now : Session σ Moment := fun w s => ⟨.ok (w.clock s), s, [], []⟩

/-- The end of a session, as the result of one that does not fail. -/
def attempt (x : Session σ α) : Session σ (Except Failure α) := fun w s =>
  let o := x w s
  ⟨.ok o.result, o.state, o.sent, o.log⟩

end Session

end ImageFiling
