import ImageFiling.Proofs.Session.Run

/-!
# Recorded sessions

A session can be run beside a record, to which some of its parts add an entry each. The record shows
which of these parts were run, and in what order; all else is as in the run without it (`Records`).
-/

namespace ImageFiling

variable {σ ρ α β : Type}

namespace World

/-- A world with a record beside its state, which it leaves alone. -/
def withRecord (w : World σ) : World (σ × List ρ) where
  serve r s := ((w.serve r s.1).1, (w.serve r s.1).2, s.2)
  clock s := w.clock s.1

/-- A world without the record that is beside its state. -/
def without (w : World (σ × List ρ)) (record : List ρ) : World σ where
  serve r s := ((w.serve r (s, record)).1, (w.serve r (s, record)).2.1)
  clock s := w.clock (s, record)

end World

namespace Session

/-- A session that first adds an entry to the record. -/
def recorded (entry : ρ) (x : Session σ α) : Session (σ × List ρ) α := fun w s =>
  let run := x (w.without s.2) s.1
  ⟨run.result, (run.state, s.2 ++ [entry]), run.sent, run.log⟩

/-- Beside a record, `x'` runs as `x` does and adds these entries. -/
def Records (x' : Session (σ × List ρ) α) (x : Session σ α) (w : World σ) (s : σ)
    (entries : List ρ) : Prop :=
  ∀ record, x' w.withRecord (s, record) =
    ⟨(x w s).result, ((x w s).state, record ++ entries), (x w s).sent, (x w s).log⟩

variable {w : World σ} {s : σ}

theorem recorded_records (entry : ρ) (x : Session σ α) : Records (recorded entry x) x w s [entry] :=
  fun _ => rfl

theorem ended_records (result : Except Failure α) :
    Records (ended result) (ended result) w s ([] : List ρ) := by
  intro record
  rw [List.append_nil]
  rfl

variable {x' : Session (σ × List ρ) α} {x : Session σ α} {f' : α → Session (σ × List ρ) β}
  {f : α → Session σ β} {first second : List ρ}

theorem Records.bind {a : α} (before : Records x' x w s first) (ends : (x w s).result = .ok a)
    (after : Records (f' a) (f a) w (x w s).state second) :
    Records (x' >>= f') (x >>= f) w s (first ++ second) := by
  intro record
  have start := before record
  have ends' : (x' w.withRecord (s, record)).result = .ok a := by
    rw [start]
    exact ends
  rw [bind_of_ok ends, bind_of_ok ends', start, after, List.append_assoc]

theorem Records.bind_error {e : Failure} (before : Records x' x w s first)
    (failed : (x w s).result = .error e) : Records (x' >>= f') (x >>= f) w s first := by
  intro record
  have start := before record
  have failed' : (x' w.withRecord (s, record)).result = .error e := by
    rw [start]
    exact failed
  rw [bind_of_error failed, bind_of_error failed', start]

end Session

end ImageFiling
