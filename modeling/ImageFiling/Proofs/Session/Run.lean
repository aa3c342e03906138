import ImageFiling.Proofs.Result
import ImageFiling.Session.Basic

/-!
# Runs of sessions

A run of a session is read off as exchanges, each a request with the reply that the world gave to
it, together with the result and the state at the end. `Ran.bind` puts the runs of two sessions
together.
-/

namespace ImageFiling

/-- A reply that holds a value and nothing else. -/
def Http.Reply.answering (value : Json) : Http.Reply := .response ⟨200, "OK", [], .ok value, [], []⟩

/-- A world that gives prepared replies, one after the other. -/
def World.scripted (clock : Moment) : World (List Http.Reply) where
  serve _ replies :=
    match replies with
    | [] => (.refused "no reply", [])
    | reply :: rest => (reply, rest)
  clock _ := clock

structure Exchange where
  request : Http.Request
  reply : Http.Reply

namespace World

variable {σ : Type}

def exchanges (w : World σ) : σ → List Http.Request → List Exchange
  | _, [] => []
  | s, r :: rest => ⟨r, (w.serve r s).1⟩ :: exchanges w (w.serve r s).2 rest

/-- The exchanges lead a world from one state to another. -/
inductive Leads (w : World σ) : σ → List Exchange → σ → Prop where
  | nil (s : σ) : Leads w s [] s
  | cons {s t : σ} {r : Http.Request} {xs : List Exchange} (rest : Leads w (w.serve r s).2 xs t) :
      Leads w s (⟨r, (w.serve r s).1⟩ :: xs) t

theorem Leads.append {w : World σ} {s t u : σ} {xs ys : List Exchange} (first : w.Leads s xs t)
    (second : w.Leads t ys u) : w.Leads s (xs ++ ys) u := by
  induction first with
  | nil s => exact second
  | cons _ ih => exact .cons (ih second)

theorem Leads.exchanges_eq {w : World σ} {s t : σ} {xs : List Exchange} (leads : w.Leads s xs t) :
    w.exchanges s (xs.map (·.request)) = xs := by
  induction leads with
  | nil s => rfl
  | cons _ ih => simp only [List.map_cons, exchanges, ih]

end World

namespace Session

variable {σ α β : Type} {w : World σ} {s t u : σ}

/-! ### One session after another -/

theorem bind_of_ok {x : Session σ α} {f : α → Session σ β} {a : α} (ends : (x w s).result = .ok a) :
    (x >>= f) w s =
      ⟨(f a w (x w s).state).result, (f a w (x w s).state).state,
        (x w s).sent ++ (f a w (x w s).state).sent, (x w s).log ++ (f a w (x w s).state).log⟩ := by
  show andThen x f w s = _
  simp only [andThen, ends]

theorem bind_of_error {x : Session σ α} {f : α → Session σ β} {e : Failure}
    (failed : (x w s).result = .error e) :
    (x >>= f) w s = ⟨.error e, (x w s).state, (x w s).sent, (x w s).log⟩ := by
  show andThen x f w s = _
  simp only [andThen, failed]

theorem bind_result_ok {x : Session σ α} {f : α → Session σ β} {b : β}
    (ends : ((x >>= f) w s).result = .ok b) :
    ∃ a, (x w s).result = .ok a ∧ (f a w (x w s).state).result = .ok b := by
  cases first : (x w s).result with
  | error e =>
    rw [bind_of_error first] at ends
    cases ends
  | ok a =>
    rw [bind_of_ok first] at ends
    exact ⟨a, rfl, ends⟩

theorem bind_result_error {x : Session σ α} {f : α → Session σ β} {e : Failure}
    (failed : ((x >>= f) w s).result = .error e) :
    (x w s).result = .error e ∨
      ∃ a, (x w s).result = .ok a ∧ (f a w (x w s).state).result = .error e := by
  cases first : (x w s).result with
  | error e' =>
    rw [bind_of_error first] at failed
    cases failed
    exact .inl rfl
  | ok a =>
    rw [bind_of_ok first] at failed
    exact .inr ⟨a, rfl, failed⟩

theorem bind_state {x : Session σ α} {f : α → Session σ β} (first : (x w s).state = s)
    (later : ∀ a, (f a w s).state = s) : ((x >>= f) w s).state = s := by
  cases ends : (x w s).result with
  | error e =>
    rw [bind_of_error ends]
    exact first
  | ok a =>
    rw [bind_of_ok ends, first]
    exact later a

@[simp] theorem note_bind (level : LogLevel) (message : Text) (f : Unit → Session σ α) :
    (note level message >>= f) w s =
      { f () w s with log := ⟨level, message⟩ :: (f () w s).log } := by
  rw [bind_of_ok (a := ()) rfl]
  rfl

/-- What is read off the end of a session changes nothing but its result. -/
theorem bind_ended (x : Session σ α) (read : α → Except Failure β) :
    (x >>= fun a => ended (read a)) w s = { x w s with result := (x w s).result >>= read } := by
  cases first : (x w s).result with
  | error e => rw [bind_of_error first]; rfl
  | ok a =>
    rw [bind_of_ok first]
    simp only [ended, List.append_nil]
    rfl

@[simp] theorem attempt_bind_result (x : Session σ α) (f : Except Failure α → Session σ β) :
    ((attempt x >>= f) w s).result = (f (x w s).result w (x w s).state).result := by
  rw [bind_of_ok (a := (x w s).result) rfl]
  rfl

theorem lift_error {ε : Type} {toFailure : ε → Failure} {x : Except ε α} {e : Failure}
    (failed : (lift toFailure x w s).result = .error e) :
    ∃ reason, x = .error reason ∧ toFailure reason = e :=
  mapError_eq_error.mp failed

/-! ### Runs -/

/-- A session, run in a world from a state, makes these exchanges and ends with this result in that
state. -/
structure Ran (x : Session σ α) (w : World σ) (s : σ) (xs : List Exchange)
    (result : Except Failure α) (t : σ) : Prop where
  result_eq : (x w s).result = result
  state_eq : (x w s).state = t
  sent_eq : (x w s).sent = xs.map (·.request)
  leads : w.Leads s xs t

theorem Ran.exchanges_eq {x : Session σ α} {xs : List Exchange} {result : Except Failure α}
    (ran : Ran x w s xs result t) : w.exchanges s (x w s).sent = xs := by
  rw [ran.sent_eq]
  exact ran.leads.exchanges_eq

theorem ended_ran (result : Except Failure α) (w : World σ) (s : σ) :
    Ran (ended result) w s [] result s := ⟨rfl, rfl, rfl, .nil s⟩

theorem pure_ran (a : α) (w : World σ) (s : σ) : Ran (pure a) w s [] (.ok a) s := ended_ran _ w s

theorem note_ran (level : LogLevel) (message : Text) (w : World σ) (s : σ) :
    Ran (note level message) w s [] (.ok ()) s := ⟨rfl, rfl, rfl, .nil s⟩

theorem send_ran (r : Http.Request) (w : World σ) (s : σ) :
    Ran (send r) w s [⟨r, (w.serve r s).1⟩] (.ok (w.serve r s).1) (w.serve r s).2 :=
  ⟨rfl, rfl, rfl, .cons (.nil _)⟩

theorem Ran.bind {x : Session σ α} {f : α → Session σ β} {xs ys : List Exchange} {a : α}
    {result : Except Failure β} (first : Ran x w s xs (.ok a) t)
    (second : Ran (f a) w t ys result u) : Ran (x >>= f) w s (xs ++ ys) result u := by
  obtain ⟨rx, rfl, sentx, leadsx⟩ := first
  obtain ⟨ry, sy, senty, leadsy⟩ := second
  have run := bind_of_ok (f := f) rx
  refine ⟨?_, ?_, ?_, leadsx.append leadsy⟩
  · rw [run, ry]
  · rw [run, sy]
  · rw [run, sentx, senty, List.map_append]

theorem Ran.bind_error {x : Session σ α} {f : α → Session σ β} {xs : List Exchange} {e : Failure}
    (first : Ran x w s xs (.error e) t) : Ran (x >>= f) w s xs (.error e) t := by
  obtain ⟨rx, sx, sentx, leadsx⟩ := first
  have run := bind_of_error (f := f) rx
  refine ⟨?_, ?_, ?_, leadsx⟩
  · rw [run]
  · rw [run, sx]
  · rw [run, sentx]

/-! ### What is sent -/

@[simp] theorem now_bind (f : Moment → Session σ α) : (now >>= f) w s = f (w.clock s) w s := rfl

theorem lift_bind {ε : Type} {toFailure : ε → Failure} {x : Except ε α} {a : α} (ends : x = .ok a)
    (f : α → Session σ β) : (lift toFailure x >>= f) w s = f a w s := by
  rw [ends]
  rfl

theorem sent_bind_silent {x : Session σ α} {f : α → Session σ β}
    (silent : ∀ a t, (f a w t).sent = []) : ((x >>= f) w s).sent = (x w s).sent := by
  change (andThen x f w s).sent = (x w s).sent
  unfold andThen
  generalize x w s = o
  obtain ⟨result, t, sent, log⟩ := o
  cases result with
  | error e => rfl
  | ok a =>
    simp only [silent, List.append_nil]

/-! ### Laws -/

theorem map_id_eq (x : Session σ α) : id <$> x = x := by
  funext w s
  show andThen x (fun a => ended (.ok a)) w s = x w s
  unfold andThen ended
  generalize x w s = o
  obtain ⟨result, t, sent, log⟩ := o
  cases result <;> simp

theorem andThen_assoc {γ : Type} (x : Session σ α) (f : α → Session σ β) (g : β → Session σ γ) :
    x >>= f >>= g = x >>= fun a => f a >>= g := by
  funext w s
  show andThen (andThen x f) g w s = andThen x (fun a => andThen (f a) g) w s
  unfold andThen
  generalize x w s = o
  obtain ⟨result, t, sent, log⟩ := o
  cases result with
  | error e => rfl
  | ok a =>
    dsimp only
    generalize f a w t = o'
    obtain ⟨result, u, sent', log'⟩ := o'
    cases result <;> simp [List.append_assoc]

instance : LawfulMonad (Session σ) :=
  LawfulMonad.mk' _ map_id_eq (fun _ _ => rfl) andThen_assoc

/-! ### One request and a reading of its reply -/

def ask (r : Http.Request) (read : Http.Reply → Except Failure α) : Session σ α :=
  send r >>= fun reply => ended (read reply)

theorem ask_ran (r : Http.Request) (read : Http.Reply → Except Failure α) (w : World σ) (s : σ) :
    Ran (ask r read) w s [⟨r, (w.serve r s).1⟩] (read (w.serve r s).1) (w.serve r s).2 :=
  (send_ran r w s).bind (ended_ran _ _ _)

theorem ended_bind {x : Except Failure α} {f : α → Session σ β} {g : α → Except Failure β}
    (ends : ∀ a, f a = ended (g a)) : (ended x >>= f) = ended (x >>= g) := by
  cases x with
  | ok a => exact ends a
  | error e => rfl

theorem ask_bind {r : Http.Request} {read : Http.Reply → Except Failure α} {f : α → Session σ β}
    {g : α → Except Failure β} (ends : ∀ a, f a = ended (g a)) :
    (ask r read >>= f) = ask r fun reply => read reply >>= g := by
  unfold ask
  rw [bind_assoc]
  simp only [ended_bind ends]

end Session

end ImageFiling
