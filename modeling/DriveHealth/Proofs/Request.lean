import DriveHealth.Proofs.Journal
set_option autoImplicit false

namespace DriveHealth

open Backend (Call)

inductive Request where
  | query (t : Target) (q : Query) (r : Recorder)
  | discover (arguments : String) (mode : ScanMode) (r : Recorder)
  | identity (name : String)
  | identify (name : String) (choice : Int)
  | settings (name : String) (choice : Int)
  | smartInfo (name : String)
  | info (name : String)
  | health (name : String)
  | scan (arguments : String) (mode : ScanMode)
  | version
  | copyright
  | license
  | buildInfo

/-- What a caller gets. A program that a trap has stopped gives no answer. -/
inductive Answer where
  | outcome (result : Except Fault Unit) (r : Recorder)
  | lines (ls : List String)
  | text (s : String)
  | stopped (trap : Trap)

def Answer.ofChecked {α : Type} (answer : α → Answer) : Checked α → Answer
  | .ok a => answer a
  | .error trap => .stopped trap

@[simp] theorem Answer.ofChecked_ok {α : Type} (answer : α → Answer) (a : α) :
    Answer.ofChecked answer (.ok a) = answer a := rfl

namespace Request

/-- The device that a request is about, and what it asks; none for a request about no single device. -/
def device? : Request → Option (Target × Except Fault Query)
  | .query t q _ => some (t, .ok q)
  | .identity name => some ({ name }, .ok .identity)
  | .identify name choice => some ({ name }, (IdentifyMode.ofChoice choice).map .identify)
  | .settings name choice => some ({ name }, (SettingsGroup.ofChoice choice).map .settings)
  | .smartInfo name => some ({ name }, .ok .smartInfo)
  | .info name => some ({ name }, .ok .info)
  | .health name => some ({ name }, .ok .health)
  | .discover _ _ _ | .scan _ _ | .version | .copyright | .license | .buildInfo => none

def refusal (reason : String) : Request → Answer
  | .query _ _ r | .discover _ _ r => .outcome (.error (.unavailable reason)) r
  | .version | .copyright | .license | .buildInfo => .text ""
  | .identity _ | .identify _ _ | .settings _ _ | .smartInfo _ | .info _ | .health _ | .scan _ _ =>
    .lines []

end Request

namespace Service

variable {σ δ : Type}

def serve (s : Service σ δ) : Request → Answer × Service σ δ
  | .query t q r =>
    let (result, r, s) := s.runQuery t q r
    (.ofChecked (.outcome · r) result, s)
  | .discover arguments mode r =>
    let (result, r, s) := s.runScan arguments mode r
    (.outcome result r, s)
  | .identity name => (s.identity name).map (.ofChecked .lines) id
  | .identify name choice => (s.identify name choice).map (.ofChecked .lines) id
  | .settings name choice => (s.settings name choice).map (.ofChecked .lines) id
  | .smartInfo name => (s.smartInfo name).map (.ofChecked .lines) id
  | .info name => (s.info name).map (.ofChecked .lines) id
  | .health name => (s.health name).map (.ofChecked .lines) id
  | .scan arguments mode => (s.scan arguments mode).map .lines id
  | .version => (.text s.version, s)
  | .copyright => (.text s.copyright, s)
  | .license => (.text s.license, s)
  | .buildInfo => (.text s.buildInfo, s)

def serveAll : List Request → Service σ δ → List Answer × Service σ δ
  | [], s => ([], s)
  | q :: qs, s =>
    let (a, s) := s.serve q
    let (as, s) := serveAll qs s
    (a :: as, s)

def calls (s : Service σ δ) (request : Request) : List (Call δ) :=
  match request with
  | .query t q r => s.queryCalls t q r
  | .discover arguments mode r => s.scanCalls arguments mode r
  | .scan arguments mode => s.scanCalls arguments mode s.recorder
  | .version | .copyright | .license | .buildInfo => []
  | .identity _ | .identify _ _ | .settings _ _ | .smartInfo _ | .info _ | .health _ =>
    match request.device? with
    | some (t, .ok q) => s.queryCalls t q s.recorder
    | _ => []

def callsAll : List Request → Service σ δ → List (Call δ)
  | [], _ => []
  | q :: qs, s => s.calls q ++ callsAll qs (s.serve q).2

/-- What requests leave alone: all but the backend's state and the drive database. -/
structure SameSetup (s s' : Service σ δ) : Prop where
  backend : s'.backend = s.backend
  config : s'.config = s.config
  status : s'.status = s.status
  edition : s'.edition = s.edition

namespace SameSetup

theorem refl (s : Service σ δ) : SameSetup s s := ⟨rfl, rfl, rfl, rfl⟩

theorem trans {s s' s'' : Service σ δ} (h : SameSetup s s') (h' : SameSetup s' s'') :
    SameSetup s s'' :=
  ⟨h'.backend.trans h.backend, h'.config.trans h.config, h'.status.trans h.status,
    h'.edition.trans h.edition⟩

theorem state (s : Service σ δ) (x : σ) : SameSetup s { s with state := x } := ⟨rfl, rfl, rfl, rfl⟩

theorem needDatabase (s : Service σ δ) : SameSetup s s.needDatabase.2 := by
  unfold Service.needDatabase
  split <;> exact ⟨rfl, rfl, rfl, rfl⟩

theorem followPlan (s : Service σ δ) (d : δ) (p : Plan) (r : Recorder) :
    SameSetup s (s.followPlan d p r).2.2 := by
  have h := needDatabase s
  unfold Service.followPlan
  dsimp only
  split <;> exact h.trans (state _ _)

theorem queryFound (s : Service σ δ) (d : δ) (q : Query) (r : Recorder) :
    SameSetup s (s.queryFound d q r).2.2 := by
  unfold Service.queryFound
  split
  · exact refl s
  · exact followPlan s d _ r

theorem runQuery (s : Service σ δ) (t : Target) (q : Query) (r : Recorder) :
    SameSetup s (s.runQuery t q r).2.2 := by
  unfold Service.runQuery
  dsimp only
  split
  · exact refl s
  · split
    · exact state s _
    · exact (state s _).trans (queryFound _ _ _ _)

theorem runScan (s : Service σ δ) (arguments : String) (mode : ScanMode) (r : Recorder) :
    SameSetup s (s.runScan arguments mode r).2.2 := by
  have h := needDatabase s
  unfold Service.runScan
  dsimp only
  split
  · exact refl s
  · split
    · exact h.trans (state _ _)
    · exact h

end SameSetup

theorem serve_cases (s : Service σ δ) (request : Request) :
    (∃ t q r, request.device? = some (t, .ok q) ∧ (s.serve request).2 = (s.runQuery t q r).2.2 ∧
      s.calls request = s.queryCalls t q r) ∨
    (∃ arguments mode r, request.device? = none ∧
      (s.serve request).2 = (s.runScan arguments mode r).2.2 ∧
      s.calls request = s.scanCalls arguments mode r) ∨
    ((∀ t q, request.device? ≠ some (t, .ok q)) ∧ (s.serve request).2 = s ∧
      s.calls request = []) := by
  have hq : ∀ name q, (s.query name q).2 = (s.runQuery { name } q s.recorder).2.2 := fun _ _ => rfl
  cases request with
  | query t q r => exact .inl ⟨t, q, r, rfl, rfl, rfl⟩
  | discover arguments mode r => exact .inr (.inl ⟨arguments, mode, r, rfl, rfl, rfl⟩)
  | identity name => exact .inl ⟨_, _, s.recorder, rfl, hq _ _, rfl⟩
  | identify name choice =>
    cases hc : (IdentifyMode.ofChoice choice).map Query.identify with
    | error e => exact .inr (.inr (by simp [serve, identify, queryPicked, calls, Request.device?, hc]))
    | ok q => exact .inl ⟨{ name }, q, s.recorder,
        by simp [serve, identify, queryPicked, calls, Request.device?, hc, hq]⟩
  | settings name choice =>
    cases hc : (SettingsGroup.ofChoice choice).map Query.settings with
    | error e => exact .inr (.inr (by simp [serve, settings, queryPicked, calls, Request.device?, hc]))
    | ok q => exact .inl ⟨{ name }, q, s.recorder,
        by simp [serve, settings, queryPicked, calls, Request.device?, hc, hq]⟩
  | smartInfo name => exact .inl ⟨_, _, s.recorder, rfl, hq _ _, rfl⟩
  | info name => exact .inl ⟨_, _, s.recorder, rfl, hq _ _, rfl⟩
  | health name => exact .inl ⟨_, _, s.recorder, rfl, hq _ _, rfl⟩
  | scan arguments mode =>
    exact .inr (.inl ⟨arguments, mode, s.recorder, rfl, rfl, rfl⟩)
  | version | copyright | license | buildInfo =>
    exact .inr (.inr ⟨by simp [Request.device?], rfl, rfl⟩)

theorem sameSetup_serve (s : Service σ δ) (request : Request) : SameSetup s (s.serve request).2 := by
  obtain ⟨t, q, r, -, hs, -⟩ | ⟨arguments, mode, r, -, hs, -⟩ | ⟨-, hs, -⟩ := s.serve_cases request
  · rw [hs]; exact SameSetup.runQuery s t q r
  · rw [hs]; exact SameSetup.runScan s arguments mode r
  · rw [hs]; exact SameSetup.refl s

theorem sameSetup_serveAll (s : Service σ δ) (requests : List Request) :
    SameSetup s (s.serveAll requests).2 := by
  induction requests generalizing s with
  | nil => exact SameSetup.refl s
  | cons q qs ih => exact (sameSetup_serve s q).trans (ih _)

theorem query_journaled (s : Service σ δ) (hs : s.status = .ready) (name : String) (q : Query)
    (j : List (Call δ)) :
    (s.journaled j).query name q =
      ((s.query name q).1,
        (s.query name q).2.journaled (j ++ s.queryCalls { name } q s.recorder)) := by
  have hr : (s.journaled j).recorder = s.recorder := rfl
  rw [query, hr, runQuery_journaled s hs, query]

theorem queryPicked_journaled (s : Service σ δ) (hs : s.status = .ready) (name : String)
    (q : Except Fault Query) (j : List (Call δ)) :
    (s.journaled j).queryPicked name q =
      ((s.queryPicked name q).1, (s.queryPicked name q).2.journaled (j ++ match q with
        | .ok q => s.queryCalls { name } q s.recorder
        | .error _ => [])) := by
  cases q with
  | error e => simp [queryPicked]
  | ok q => exact query_journaled s hs name q j

theorem serve_journaled (s : Service σ δ) (hs : s.status = .ready) (request : Request)
    (j : List (Call δ)) :
    (s.journaled j).serve request =
      ((s.serve request).1, (s.serve request).2.journaled (j ++ s.calls request)) := by
  have hr : (s.journaled j).recorder = s.recorder := rfl
  cases request with
  | query t q r => simp [serve, calls, runQuery_journaled s hs]
  | discover arguments mode r => simp [serve, calls, runScan_journaled s hs]
  | identity name => simp [serve, calls, identity, query_journaled s hs, Request.device?]
  | identify name choice =>
    cases hc : (IdentifyMode.ofChoice choice).map Query.identify <;>
      simp [serve, calls, identify, queryPicked_journaled s hs, Request.device?, hc]
  | settings name choice =>
    cases hc : (SettingsGroup.ofChoice choice).map Query.settings <;>
      simp [serve, calls, settings, queryPicked_journaled s hs, Request.device?, hc]
  | smartInfo name => simp [serve, calls, smartInfo, query_journaled s hs, Request.device?]
  | info name => simp [serve, calls, info, query_journaled s hs, Request.device?]
  | health name => simp [serve, calls, health, query_journaled s hs, Request.device?]
  | scan arguments mode =>
    simp only [serve, calls, scan, hr, runScan_journaled s hs]
    rfl
  | version | copyright | license | buildInfo => simp [serve, calls]; rfl

theorem serveAll_journaled (s : Service σ δ) (hs : s.status = .ready) (requests : List Request)
    (j : List (Call δ)) :
    (s.journaled j).serveAll requests =
      ((s.serveAll requests).1,
        (s.serveAll requests).2.journaled (j ++ s.callsAll requests)) := by
  induction requests generalizing s j with
  | nil => simp [serveAll, callsAll]
  | cons q qs ih =>
    have hn := (sameSetup_serve s q).status.trans hs
    simp [serveAll, callsAll, serve_journaled s hs, ih _ hn]

end Service

end DriveHealth
