import ImageFiling.Proofs.Session.Saving
import ImageFiling.Proofs.Storage.UploadFaults
import ImageFiling.Proofs.Storage.UploadPhases

/-!
# Completed uploads

Once the folder service has taken a file and put it where it belongs, saving can still fail: what
the service names the file by has to be a text (`save_completed`).
-/

namespace ImageFiling

namespace FolderService

variable {account : FolderAccount} {u : Upload} {code : Json}

/-- Exchanges in which the service takes the content under a code, and does not refuse to move
it. -/
structure Completed (account : FolderAccount) (xs : List Exchange) (code : Json) : Prop where
  taken : ∃ x ∈ xs, x.request.carriesFile = true ∧ storedOf x.reply = .ok code
  moved : ∀ x ∈ xs, ∀ code folder, x.request = moveRequest account code folder →
    ∃ answer, answerOf "set file folder" x.reply = .ok answer

theorem Filing.result_of_completed {folder : Int} {rest : List Exchange}
    {result : Except Failure Json} (filing : Filing account u folder rest result)
    (completed : Completed account rest code) : result = .ok code := by
  obtain ⟨⟨x, member, carries, taken⟩, moved⟩ := completed
  cases filing with
  | unassigned assigned =>
    rw [List.mem_singleton.mp member] at carries
    cases carries
  | unstored assigned refused =>
    rcases List.mem_pair.mp member with rfl | rfl
    · cases carries
    · cases refused.symm.trans taken
  | inRoot assigned accepted root =>
    rcases List.mem_pair.mp member with rfl | rfl
    · cases carries
    · exact accepted.symm.trans taken
  | moved assigned accepted notRoot =>
    obtain ⟨answer, done⟩ :=
      moved _ (List.mem_cons_of_mem _ (List.mem_cons_of_mem _ List.mem_cons_self)) _ _ rfl
    rw [done]
    simp only [List.mem_cons, List.not_mem_nil, or_false] at member
    rcases member with rfl | rfl | rfl
    · cases carries
    · exact accepted.symm.trans taken
    · cases carries

theorem Uploading.result_of_completed {lists creates rest : List Exchange}
    {result : Except Failure Json} (uploading : Uploading account u lists creates rest result)
    (completed : Completed account (lists ++ creates ++ rest) code) : result = .ok code := by
  obtain ⟨⟨x, member, carries, taken⟩, moved⟩ := completed
  have notWalked {walked : Except Failure Int}
      (walk : Walk account rootId (segments u.directory) lists creates walked) :
      x ∉ lists ++ creates := by
    intro inside
    rw [walk.carriesFile_eq_false x inside] at carries
    cases carries
  cases uploading with
  | unresolved walk =>
    rw [List.append_nil] at member
    exact (notWalked walk member).elim
  | resolved walk filing =>
    have inRest := (List.mem_append.mp member).resolve_left (notWalked walk)
    exact filing.result_of_completed ⟨⟨x, inRest, carries, taken⟩,
      fun y inside => moved y (List.mem_append_right _ inside)⟩

theorem upload_of_completed {σ : Type} {w : World σ} {s : σ}
    (completed : Completed account (w.exchanges s (upload account u w s).sent) code) :
    (upload account u w s).result = .ok code := by
  obtain ⟨lists, creates, rest, result, t, ran, uploading⟩ := upload_ran account w s u
  rw [ran.exchanges_eq] at completed
  rw [ran.result_eq]
  exact uploading.result_of_completed completed

end FolderService

namespace Saving

open FolderService (Completed)

/-- When the service has taken the content of an image under a code, and has refused nothing, the
saving ends as the code says: a text is told with the place of the upload, and any other value is a
failure after all. -/
theorem save_completed {σ : Type} {account : FolderAccount} {templates : List Template}
    {page : Page} {image : Image} {e : Encryption σ} {now : Option Moment} {w : World σ} {s : σ}
    {d : Destination} {u : Upload} {code : Json}
    (placed : place templates page image (now.getD (w.clock s)) = .ok d)
    (ready : (uploadFor d image e w s).result = .ok u) (fits : u.content.length < 2 ^ 63)
    (completed : Completed account (w.exchanges (uploadFor d image e w s).state
      (FolderService.upload account u w (uploadFor d image e w s).state).sent) code) :
    let run := save (FolderService.client account) templates page image e now w s
    run.sent = (uploadFor d image e w s).sent ++
      (FolderService.upload account u w (uploadFor d image e w s).state).sent ∧
    (∀ id, code = .text id → run.result =
      .ok ⟨id, u.directory, u.fileName, d.isMatched, (passwordFor d e).isSome⟩) ∧
    ((∀ id, code ≠ .text id) → run.result = .error .remoteId ∧ Failure.remoteId.kind = .shape) := by
  obtain ⟨size, measured⟩ := Size.text_ok fits
  have answered := FolderService.upload_of_completed completed
  rw [save_placed placed, saveTo, Session.bind_of_ok ready, filed_measured measured]
  dsimp only [FolderService.client]
  rw [answered]
  refine ⟨rfl, ?_, ?_⟩
  · rintro id rfl
    rfl
  · intro other
    cases code with
    | text id => exact (other id rfl).elim
    | _ => exact ⟨rfl, rfl⟩

def drawer : Template where
  url := "*"
  directory := some "/drawer"

def sketch : Image := ⟨[105, 109, 103], some "image/png", none⟩

def sketchPage : Page := ⟨"https://www.example.com/a", "T"⟩

def sketchUpload : Upload :=
  ⟨"/drawer", "20250102030405.png", sketch.content, some "image/png", none⟩

def morning : Moment := ⟨⟨2025, 1, 2⟩, 3, 4, 5, 0, .ok 0⟩

def drawerAccount : FolderAccount where
  apiKey := "key"

/-- The exchanges of an upload into the drawer, in which the file gets a code. -/
def drawerExchanges (code : Json) : List Exchange :=
  [⟨FolderService.listRequest drawerAccount 0,
      .answering (.object [("status", .ofInt 200), ("result", .object [("folders", .array
        [.object [("fld_id", .ofInt 7), ("name", .text "Drawer")]])])])⟩,
    ⟨FolderService.serverRequest drawerAccount,
      .answering (.object [("status", .ofInt 200), ("result", .text "https://up.example.com/u"),
        ("sess_id", .text "s")])⟩,
    ⟨FolderService.fileRequest (.text "https://up.example.com/u") (.text "s") sketchUpload,
      .answering (.array [.object [("file_code", code)]])⟩,
    ⟨FolderService.moveRequest drawerAccount code 7, .answering (.object [("status", .ofInt 200)])⟩]

theorem drawer_completed {code : Json}
    (taken : FolderService.fileCode? (.array [.object [("file_code", code)]]) = some code) :
    Completed drawerAccount (drawerExchanges code) code := by
  have accepted : FolderService.storedOf (.answering (.array [.object [("file_code", code)]])) =
      .ok code := by
    refine bind_eq_ok.mpr ⟨_, rfl, ?_⟩
    rw [taken]
  constructor
  · refine ⟨_, List.mem_cons_of_mem _ (List.mem_cons_of_mem _ List.mem_cons_self), rfl, accepted⟩
  · intro x member code folder asked
    simp only [drawerExchanges, List.mem_cons, List.not_mem_nil, or_false] at member
    rcases member with rfl | rfl | rfl | rfl
    · exact absurd (FolderService.endpoint_of_callRequest asked) (by decide)
    · exact absurd (FolderService.endpoint_of_callRequest asked) (by decide)
    · exact (FolderService.fileRequest_ne_call asked).elim
    · exact ⟨_, rfl⟩

theorem drawer_place : place [drawer] sketchPage sketch morning =
    .ok ⟨true, "/drawer", "20250102030405", ".png", none, false⟩ := by
  decide +kernel

/-- A text as the code of the file. -/
theorem sketch_saved :
    let replies := (drawerExchanges (.text "abc")).map (·.reply)
    (save (FolderService.client drawerAccount) [drawer] sketchPage sketch {} (some morning)
      (World.scripted morning) replies).result =
        .ok ⟨"abc", "/drawer", "20250102030405.png", true, false⟩ := by
  intro replies
  have ready : (uploadFor ⟨true, "/drawer", "20250102030405", ".png", none, false⟩ sketch {}
      (World.scripted morning) replies).result = .ok sketchUpload := rfl
  have code : Completed drawerAccount (drawerExchanges (.text "abc")) (.text "abc") :=
    drawer_completed rfl
  have completed : Completed drawerAccount ((World.scripted morning).exchanges replies
      (FolderService.upload drawerAccount sketchUpload (World.scripted morning) replies).sent)
      (.text "abc") := by
    -- Replayed, the replies give the exchanges they were taken from.
    with_unfolding_all exact code
  have placed : place [drawer] sketchPage sketch
      ((some morning).getD ((World.scripted morning).clock replies)) = .ok _ := drawer_place
  exact (save_completed placed ready (by decide) completed).2.1 "abc" rfl

/-- A number as the code of the file. -/
theorem numbered_sketch_not_saved :
    let replies := (drawerExchanges (.ofInt 123)).map (·.reply)
    let world := World.scripted morning
    Completed drawerAccount (world.exchanges replies
      (FolderService.upload drawerAccount sketchUpload world replies).sent) (.ofInt 123) ∧
    (save (FolderService.client drawerAccount) [drawer] sketchPage sketch {} (some morning) world
      replies).result = .error .remoteId := by
  have code : Completed drawerAccount (drawerExchanges (.ofInt 123)) (.ofInt 123) :=
    drawer_completed rfl
  refine ⟨by with_unfolding_all exact code, ?_⟩
  rw [save_placed drawer_place]
  with_unfolding_all rfl

end Saving

end ImageFiling
