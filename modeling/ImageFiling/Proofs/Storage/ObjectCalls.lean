import ImageFiling.Proofs.Session.Run
import ImageFiling.Storage.ObjectStore

/-!
# Calls of an object store

A request is signed by the clock of the world. One that can be signed is one exchange, with all that
the signing gave (`send_ran`); one that cannot is not made (`send_of_unsigned`).
-/

namespace ImageFiling.ObjectStore

variable {σ : Type} {store : ObjectStore} {w : World σ} {t : σ} {method url : Text}
  {headers : Entries Text} {content : Bytes}

def responseOf : Http.Reply → Except Failure Http.Response
  | .refused reason => .error (.storage (.connection reason))
  | .response r => .ok r
  | .raised reason => .error (.raised reason)

def signedRequest (method url : Text) (signed : Entries Text) (content : Bytes) : Http.Request :=
  ⟨method, .text url, .body signed (bodyOf content)⟩

theorem send_of_signed {signed : Entries Text}
    (ready : SignatureV4.sign store.digests store.signer method url headers content
      { w.clock t with utcOffset := .ok 0 } = .ok signed) :
    store.send method url headers content w t =
      Session.ask (signedRequest method url signed content) responseOf w t := by
  unfold ObjectStore.send
  rw [Session.now_bind, Session.lift_bind ready]
  refine congrArg (fun next => (Session.send _ >>= next) w t) (funext fun reply => ?_)
  cases reply with
  | refused reason => rfl
  | response r => rfl
  | raised reason => rfl

theorem send_of_unsigned {e : SignatureV4.Fault}
    (refused : SignatureV4.sign store.digests store.signer method url headers content
      { w.clock t with utcOffset := .ok 0 } = .error e) :
    store.send method url headers content w t = ⟨.error (.signing e), t, [], []⟩ := by
  unfold ObjectStore.send
  rw [Session.now_bind, refused]
  rfl

theorem send_ran {signed : Entries Text}
    (ready : SignatureV4.sign store.digests store.signer method url headers content
      { w.clock t with utcOffset := .ok 0 } = .ok signed) :
    Session.Ran (store.send method url headers content) w t
      [⟨signedRequest method url signed content,
        (w.serve (signedRequest method url signed content) t).1⟩]
      (responseOf (w.serve (signedRequest method url signed content) t).1)
      (w.serve (signedRequest method url signed content) t).2 := by
  have asked := send_of_signed ready
  have ran := Session.ask_ran (signedRequest method url signed content) responseOf w t
  exact ⟨asked ▸ ran.result_eq, asked ▸ ran.state_eq, asked ▸ ran.sent_eq, ran.leads⟩

end ImageFiling.ObjectStore
