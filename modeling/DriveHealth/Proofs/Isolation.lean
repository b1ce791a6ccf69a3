import DriveHealth.Proofs.Lifecycle
set_option autoImplicit false

/-!
What one request leaves for the next: the state of the backend, and whether there is a drive database. With a
backend whose answers do not depend on its state no request can tell what was asked before it. A query begins
with a recorder as good as new, however it is handed over; a scan without a drive database does not.
-/

namespace DriveHealth

namespace Backend

variable {σ δ : Type} {b : Backend σ δ}

/-- Every answer depends on the arguments of the call alone. A device is given up when it is closed, so
nothing is demanded of `close`. -/
structure Stateless (b : Backend σ δ) : Prop where
  loadDatabase : ∀ useDefault s s',
    (b.loadDatabase useDefault s).1 = (b.loadDatabase useDefault s').1
  lookup : ∀ name hint s s', (b.lookup name hint s).1 = (b.lookup name hint s').1
  found : ∀ types pattern r s s', (b.scan types pattern r s).1 = (b.scan types pattern r s').1
  scanned : ∀ types pattern r s s', (b.scan types pattern r s).2.1 = (b.scan types pattern r s').2.1
  connect : ∀ d s s', (b.connect d s).1 = (b.connect d s').1
  examined : ∀ t d r s s', (b.examine t d r s).1 = (b.examine t d r s').1
  recorded : ∀ t d r s s', (b.examine t d r s).2.1 = (b.examine t d r s').2.1

namespace Stateless

variable (hb : b.Stateless)

include hb

theorem find_eq (t : Target) (s s' : σ) : (b.find t s).1 = (b.find t s').1 := by
  have hl := hb.lookup t.name t.typeHint s s'
  unfold find
  by_cases hn : t.name.isEmpty
  · simp [hn]
  · cases h : (b.lookup t.name t.typeHint s').1 <;> rw [h] at hl <;> simp [hn, hl, h]

theorem openDevice_eq (d : δ) (s s' : σ) : (b.openDevice d s).1 = (b.openDevice d s').1 := by
  have hc := hb.connect d s s'
  unfold openDevice
  by_cases ho : (b.facts (b.connect d s').1).isOpen = true <;> simp [hc, ho]

theorem examineAll_eq (ts : List Task) (d : δ) (r : Recorder) (s s' : σ) :
    (b.examineAll ts d r s).1 = (b.examineAll ts d r s').1 ∧
      (b.examineAll ts d r s).2.1 = (b.examineAll ts d r s').2.1 := by
  induction ts generalizing d r s s' with
  | nil => exact ⟨rfl, rfl⟩
  | cons t ts ih =>
    have hd := hb.examined t d r s s'
    have hr := hb.recorded t d r s s'
    simp only [examineAll, hd, hr]
    exact ih _ _ _ _

theorem carryOut_eq (p : Plan) (d : δ) (r : Recorder) (s s' : σ) :
    (b.carryOut p d r s).1 = (b.carryOut p d r s').1 :=
  (hb.examineAll_eq (p.tasks (b.facts d).protocols) d r s s').2

theorem listDevice_eq (mode : ScanMode) (annotations : List String) (index : Nat) (d : δ) (r : Recorder)
    (s s' : σ) : (b.listDevice mode annotations index d r s).1 =
      (b.listDevice mode annotations index d r s').1 := by
  cases mode with
  | plain => simp [listDevice]
  | opening =>
    have hc := hb.connect d s s'
    by_cases ho : (b.facts (b.connect d s').1).isOpen = true <;> simp [listDevice, hc, ho]

theorem listDevices_eq (mode : ScanMode) (annotations : List String) (ds : List δ) (index : Nat)
    (r : Recorder) (s s' : σ) : (b.listDevices mode annotations index ds r s).1 =
      (b.listDevices mode annotations index ds r s').1 := by
  induction ds generalizing index r s s' with
  | nil => rfl
  | cons d ds ih =>
    simp only [listDevices, hb.listDevice_eq mode annotations index d r s s']
    exact ih _ _ _ _

theorem discover_eq (types : List String) (request : ScanRequest) (mode : ScanMode) (r : Recorder)
    (s s' : σ) : (b.discover types request mode r s).1 = (b.discover types request mode r s').1 := by
  have hf := hb.found types request.pattern (r.suppress !r.debug.any) s s'
  have hr := hb.scanned types request.pattern (r.suppress !r.debug.any) s s'
  unfold discover
  cases h : (b.scan types request.pattern (r.suppress !r.debug.any) s').1 with
  | error e => simp [hf, hr, h]
  | ok ds =>
    simp only [hf, hr, h]
    exact congrArg (Recorder.suppress r.transcript.suppressed) (hb.listDevices_eq ..)

end Stateless

end Backend

namespace Backend

variable {σ δ : Type} (b : Backend σ δ)

/-- A call that is made although there may be no drive database: not a scan, and no examination of an ATA drive
that would look up presets. -/
def Call.NeedsNoDatabase : Call δ → Prop
  | .examine (.ata sections) _ => sections.ignorePresets = true
  | .scan _ _ => False
  | _ => True

theorem exists_task_of_mem_examineCalls (ts : List Task) (d : δ) (r : Recorder) (s : σ) :
    ∀ c ∈ b.examineCalls ts d r s, ∃ t ∈ ts, ∃ d', c = .examine t d' := by
  induction ts generalizing d r s with
  | nil => simp [examineCalls]
  | cons t ts ih =>
    intro c hc
    obtain rfl | hc := List.mem_cons.1 hc
    · exact ⟨t, by simp, d, rfl⟩
    · obtain ⟨t', ht', d', rfl⟩ := ih _ _ _ c hc
      exact ⟨t', by simp [ht'], d', rfl⟩

theorem carryOutCalls_withoutPresets (p : Plan) (d : δ) (r : Recorder) (s : σ) :
    ∀ c ∈ b.carryOutCalls p.withoutPresets d r s, c.NeedsNoDatabase := by
  intro c hc
  obtain hc | hc := List.mem_append.1 hc
  · obtain ⟨t, ht, d', rfl⟩ := b.exists_task_of_mem_examineCalls _ d r s c hc
    obtain ⟨x, -, rfl⟩ := List.mem_map.1 ht
    cases x <;> simp [Plan.task, Plan.withoutPresets, Call.NeedsNoDatabase]
  · unfold closeCalls at hc
    split at hc
    · obtain rfl := List.mem_singleton.1 hc
      trivial
    · cases hc

theorem findCalls_needNoDatabase (t : Target) : ∀ c ∈ (findCalls t : List (Call δ)), c.NeedsNoDatabase := by
  unfold findCalls
  split <;> simp [Call.NeedsNoDatabase]

theorem openCalls_needNoDatabase (d : δ) (s : σ) : ∀ c ∈ b.openCalls d s, c.NeedsNoDatabase := by
  unfold openCalls
  split <;> simp [Call.NeedsNoDatabase]

end Backend

namespace Service

open Backend (Call)

variable {σ δ : Type} {s s' : Service σ δ}

/-- Two services of which one can take the place of the other. Where one has loaded its drive database and
the other has not, the other would load it with the same outcome. -/
structure Alike (s s' : Service σ δ) : Prop where
  setup : SameSetup s s'
  database : s'.needDatabase.1 = s.needDatabase.1

theorem Alike.trans {s'' : Service σ δ} (h : Alike s s') (h' : Alike s' s'') : Alike s s'' :=
  ⟨h.setup.trans h'.setup, h'.database.trans h.database⟩

theorem needDatabase_idem (s : Service σ δ) : s.needDatabase.2.needDatabase.1 = s.needDatabase.1 := by
  cases hd : s.database <;> simp [needDatabase, hd]

theorem alike_state (hb : s.backend.Stateless) (x : σ) : Alike s { s with state := x } := by
  refine ⟨.state s x, ?_⟩
  cases hd : s.database with
  | some loaded => simp [needDatabase, hd]
  | none => simpa [needDatabase, hd] using hb.loadDatabase _ _ _

theorem alike_needDatabase (s : Service σ δ) : Alike s s.needDatabase.2 :=
  ⟨.needDatabase s, s.needDatabase_idem⟩

theorem alike_followPlan (hb : s.backend.Stateless) (d : δ) (p : Plan) (r : Recorder) :
    Alike s (s.followPlan d p r).2.2 := by
  have hn := s.alike_needDatabase
  have hb' : s.needDatabase.2.backend.Stateless := by simpa using hb
  unfold followPlan
  dsimp only
  split <;> exact hn.trans (alike_state hb' _)

theorem alike_queryFound (hb : s.backend.Stateless) (d : δ) (q : Query) (r : Recorder) :
    Alike s (s.queryFound d q r).2.2 := by
  unfold queryFound
  split
  · exact ⟨.refl s, rfl⟩
  · exact alike_followPlan hb d _ r

theorem alike_runQuery (hb : s.backend.Stateless) (t : Target) (q : Query) (r : Recorder) :
    Alike s (s.runQuery t q r).2.2 := by
  unfold runQuery
  dsimp only
  split
  · exact ⟨.refl s, rfl⟩
  · have hx := alike_state hb (s.backend.find t s.state).2
    split
    · exact hx
    · exact hx.trans (alike_queryFound (s := { s with state := (s.backend.find t s.state).2 }) hb _ _ _)

theorem alike_runScan (hb : s.backend.Stateless) (arguments : String) (mode : ScanMode) (r : Recorder) :
    Alike s (s.runScan arguments mode r).2.2 := by
  have hn := s.alike_needDatabase
  have hb' : s.needDatabase.2.backend.Stateless := by simpa using hb
  unfold runScan
  dsimp only
  split
  · exact ⟨.refl s, rfl⟩
  · split
    · exact hn.trans (alike_state hb' _)
    · exact hn

theorem alike_serve (hb : s.backend.Stateless) (request : Request) : Alike s (s.serve request).2 := by
  obtain ⟨t, q, r, -, hs, -⟩ | ⟨arguments, mode, r, -, hs, -⟩ | ⟨-, hs, -⟩ := s.serve_cases request
  · rw [hs]; exact alike_runQuery hb t q r
  · rw [hs]; exact alike_runScan hb arguments mode r
  · rw [hs]; exact ⟨.refl s, rfl⟩

theorem alike_serveAll (hb : s.backend.Stateless) (requests : List Request) :
    Alike s (s.serveAll requests).2 := by
  induction requests generalizing s with
  | nil => exact ⟨.refl s, rfl⟩
  | cons q qs ih =>
    have hq := alike_serve hb q
    exact hq.trans (ih (hq.setup.backend ▸ hb))

theorem Alike.state (h : Alike s s') (hb : s.backend.Stateless) (x x' : σ) :
    Alike { s with state := x } { s' with state := x' } := by
  have hx := (alike_state hb x).database
  have hx' := (alike_state (h.setup.backend ▸ hb) x').database
  exact ⟨⟨h.setup.backend, h.setup.config, h.setup.status, h.setup.edition⟩,
    hx'.trans (h.database.trans hx.symm)⟩

theorem Alike.followPlan (h : Alike s s') (hb : s.backend.Stateless) (d : δ) (p : Plan)
    (r : Recorder) : (s'.followPlan d p r).1 = (s.followPlan d p r).1 ∧
      (s'.followPlan d p r).2.1 = (s.followPlan d p r).2.1 := by
  have ho := hb.openDevice_eq d s'.needDatabase.2.state s.needDatabase.2.state
  have hc := fun p d' r => hb.carryOut_eq p d' r (s.backend.openDevice d s'.needDatabase.2.state).2
    (s.backend.openDevice d s.needDatabase.2.state).2
  unfold Service.followPlan
  simp only [backend_needDatabase, h.setup.backend, h.database, ho]
  cases (s.backend.openDevice d s.needDatabase.2.state).1 with
  | error e => exact ⟨rfl, rfl⟩
  | ok d' => exact ⟨rfl, hc _ d' r⟩

theorem Alike.queryFound (h : Alike s s') (hb : s.backend.Stateless) (d : δ) (q : Query)
    (r : Recorder) : (s'.queryFound d q r).1 = (s.queryFound d q r).1 ∧
      (s'.queryFound d q r).2.1 = (s.queryFound d q r).2.1 := by
  unfold Service.queryFound
  rw [h.setup.config]
  cases q.plan s.config.baseline with
  | error trap => exact ⟨rfl, rfl⟩
  | ok p =>
    obtain ⟨ho, hrec⟩ := h.followPlan hb d p r
    exact ⟨congrArg Except.ok ho, hrec⟩

theorem Alike.runQuery (h : Alike s s') (hb : s.backend.Stateless) (t : Target) (q : Query)
    (r : Recorder) : (s'.runQuery t q r).1 = (s.runQuery t q r).1 ∧
      (s'.runQuery t q r).2.1 = (s.runQuery t q r).2.1 := by
  have hf := hb.find_eq t s'.state s.state
  unfold Service.runQuery
  simp only [h.setup.backend, h.setup.status, hf]
  cases hst : s.status with
  | unavailable reason => exact ⟨rfl, rfl⟩
  | ready =>
    cases (s.backend.find t s.state).1 with
    | error e => exact ⟨rfl, rfl⟩
    | ok d =>
      have hs := h.state hb (s.backend.find t s.state).2 (s.backend.find t s'.state).2
      simpa only [h.setup.backend, h.setup.status, hst] using hs.queryFound hb d q r.reset

theorem Alike.runScan (h : Alike s s') (hb : s.backend.Stateless) (arguments : String)
    (mode : ScanMode) (r : Recorder) :
    (s'.runScan arguments mode r).1 = (s.runScan arguments mode r).1 ∧
      (s'.runScan arguments mode r).2.1 = (s.runScan arguments mode r).2.1 := by
  have hd := hb.discover_eq s.config.scanTypes (.parse arguments) mode r.reset
    s'.needDatabase.2.state s.needDatabase.2.state
  unfold Service.runScan
  simp only [backend_needDatabase, config_needDatabase, h.setup.backend, h.setup.config,
    h.setup.status, h.database]
  cases s.status with
  | unavailable reason => exact ⟨rfl, rfl⟩
  | ready =>
    cases s.needDatabase.1 with
    | false => exact ⟨rfl, rfl⟩
    | true => exact ⟨rfl, hd⟩

theorem Alike.serve (h : Alike s s') (hb : s.backend.Stateless) (request : Request) :
    (s'.serve request).1 = (s.serve request).1 := by
  have hr : s'.recorder = s.recorder := by rw [recorder, recorder, h.setup.config]
  have hq : ∀ name q, (s'.query name q).1 = (s.query name q).1 := by
    intro name q
    obtain ⟨ho, hrec⟩ := h.runQuery hb { name } q s.recorder
    simp [query, hr, ho, hrec]
  have hp : ∀ name q, (s'.queryPicked name q).1 = (s.queryPicked name q).1 := by
    intro name q
    cases q with
    | error e => rfl
    | ok q => exact hq name q
  have ha : ∀ program piece, s'.about program piece = s.about program piece := by
    intro program piece
    rw [about, about, isReady, isReady, h.setup.status, h.setup.edition]
  cases request with
  | query t q r =>
    obtain ⟨ho, hrec⟩ := h.runQuery hb t q r
    simp [Service.serve, ho, hrec]
  | discover arguments mode r =>
    obtain ⟨ho, hrec⟩ := h.runScan hb arguments mode r
    simp [Service.serve, ho, hrec]
  | identity name | smartInfo name | info name | health name => exact congrArg (Answer.ofChecked .lines) (hq name _)
  | identify name choice | settings name choice => exact congrArg (Answer.ofChecked .lines) (hp name _)
  | scan arguments mode =>
    have hl : (s'.scan arguments mode).1 = (s.scan arguments mode).1 := by
      obtain ⟨ho, hrec⟩ := h.runScan hb arguments mode s.recorder
      simp [scan, hr, ho, hrec]
    exact congrArg Answer.lines hl
  | version | copyright | license => exact congrArg Answer.text (ha _ _)
  | buildInfo =>
    have he : s'.edition = s.edition := h.setup.edition
    simp [Service.serve, buildInfo, ha, he]

theorem database_needDatabase (s : Service σ δ) : s.needDatabase.2.database = some s.needDatabase.1 := by
  cases hd : s.database <;> simp [needDatabase, hd]

theorem databaseCalls_needNoDatabase (s : Service σ δ) : ∀ c ∈ s.databaseCalls, c.NeedsNoDatabase := by
  unfold databaseCalls
  split <;> simp [Call.NeedsNoDatabase]

theorem database_followPlan (s : Service σ δ) (d : δ) (p : Plan) (r : Recorder) :
    (s.followPlan d p r).2.2.database = some s.needDatabase.1 := by
  have hd := s.database_needDatabase
  unfold followPlan
  dsimp only
  split <;> exact hd

theorem planCalls_needNoDatabase (d : δ) (p : Plan) (r : Recorder)
    (hd : (s.followPlan d p r).2.2.database ≠ some true) :
    ∀ c ∈ s.planCalls d p r, c.NeedsNoDatabase := by
  have hfalse : s.needDatabase.1 = false := by simpa [database_followPlan] using hd
  intro c hc
  simp only [planCalls, hfalse, List.mem_append] at hc
  obtain (hc | hc) | hc := hc
  · exact s.databaseCalls_needNoDatabase c hc
  · exact s.backend.openCalls_needNoDatabase _ _ c hc
  · split at hc
    · cases hc
    · exact s.backend.carryOutCalls_withoutPresets _ _ _ _ c hc

theorem foundCalls_needNoDatabase (d : δ) (q : Query) (r : Recorder)
    (hd : (s.queryFound d q r).2.2.database ≠ some true) :
    ∀ c ∈ s.foundCalls d q r, c.NeedsNoDatabase := by
  cases hp : q.plan s.config.baseline with
  | error trap => simp [foundCalls, hp]
  | ok p =>
    simp only [queryFound, hp] at hd
    simpa only [foundCalls, hp] using planCalls_needNoDatabase d p r hd

theorem queryCalls_needNoDatabase (ready : s.status = .ready) (t : Target) (q : Query) (r : Recorder)
    (hd : (s.runQuery t q r).2.2.database ≠ some true) :
    ∀ c ∈ s.queryCalls t q r, c.NeedsNoDatabase := by
  intro c hc
  obtain hc | hc := List.mem_append.1 hc
  · exact Backend.findCalls_needNoDatabase t c hc
  · cases hf : (s.backend.find t s.state).1 with
    | error e =>
      rw [hf] at hc
      cases hc
    | ok d =>
      rw [hf] at hc
      have hfound := @foundCalls_needNoDatabase _ _ { s with state := (s.backend.find t s.state).2 } d q
        r.reset
      simp only [runQuery, ready, hf] at hd hfound hc
      exact hfound hd c hc

theorem runScan_noDatabase (ready : s.status = .ready) (arguments : String) (mode : ScanMode)
    (r : Recorder) (hd : s.needDatabase.1 = false) :
    s.runScan arguments mode r = (.error (.invalidConfig .noDriveDatabase), r, s.needDatabase.2) ∧
      s.scanCalls arguments mode r = s.databaseCalls := by
  simp [runScan, scanCalls, ready, hd]

theorem needDatabase_of_runScan (ready : s.status = .ready) (arguments : String) (mode : ScanMode)
    (r : Recorder) (hd : (s.runScan arguments mode r).2.2.database ≠ some true) :
    s.needDatabase.1 = false := by
  have hn := s.database_needDatabase
  unfold runScan at hd
  cases hl : s.needDatabase.1 with
  | false => rfl
  | true => simp [ready, hl, hn] at hd

theorem calls_needNoDatabase (ready : s.status = .ready) (request : Request)
    (hd : (s.serve request).2.database ≠ some true) : ∀ c ∈ s.calls request, c.NeedsNoDatabase := by
  obtain ⟨t, q, r, -, hs, hc⟩ | ⟨arguments, mode, r, -, hs, hc⟩ | ⟨-, -, hc⟩ := s.serve_cases request
  · rw [hc]
    exact queryCalls_needNoDatabase ready t q r (hs ▸ hd)
  · have hfalse := needDatabase_of_runScan ready arguments mode r (hs ▸ hd)
    rw [hc, (runScan_noDatabase ready arguments mode r hfalse).2]
    exact s.databaseCalls_needNoDatabase
  · rw [hc]
    simp

theorem serve_scan_noDatabase (ready : s.status = .ready) (arguments : String) (mode : ScanMode)
    (hd : (s.serve (.scan arguments mode)).2.database ≠ some true) :
    (s.serve (.scan arguments mode)).1 = .lines [] := by
  have hfalse := needDatabase_of_runScan ready arguments mode s.recorder hd
  obtain ⟨hscan, -⟩ := runScan_noDatabase ready arguments mode s.recorder hfalse
  simp [serve, scan, hscan, linesOf]

theorem serve_discover_noDatabase (ready : s.status = .ready) (arguments : String) (mode : ScanMode)
    (r : Recorder) (hd : (s.serve (.discover arguments mode r)).2.database ≠ some true) :
    (s.serve (.discover arguments mode r)).1 = .outcome (.error (.invalidConfig .noDriveDatabase)) r := by
  have hfalse := needDatabase_of_runScan ready arguments mode r hd
  obtain ⟨hscan, -⟩ := runScan_noDatabase ready arguments mode r hfalse
  simp [serve, hscan]

/-- No request can tell what was asked before it, if the backend cannot. A query on a recorder that has been
used is a query on a new one. While there is no drive database, no ATA drive is examined with presets, and
scans find nothing and do not look. -/
theorem requests_do_not_leak (s : Service σ δ) (ready : s.status = .ready) :
    (s.backend.Stateless → ∀ before before' request,
      ((s.serveAll before).2.serve request).1 = ((s.serveAll before').2.serve request).1) ∧
    (∀ t q r, s.runQuery t q r =
      s.runQuery t q ((Recorder.start r.seed r.debug).suppress r.transcript.suppressed)) ∧
    ∀ before request,
      let last := ((s.journaled []).serveAll before).2
      (last.serve request).2.database ≠ some true →
        (∃ calls, (last.serve request).2.state.2 = last.state.2 ++ calls ∧
          ∀ c ∈ calls, c.NeedsNoDatabase) ∧
        (∀ arguments mode, request = .scan arguments mode → (last.serve request).1 = .lines []) ∧
        ∀ arguments mode r, request = .discover arguments mode r →
          (last.serve request).1 = .outcome (.error (.invalidConfig .noDriveDatabase)) r := by
  refine ⟨?_, ?_, ?_⟩
  · intro hb before before' request
    have h := (alike_serveAll hb before).serve hb request
    have h' := (alike_serveAll hb before').serve hb request
    exact h.trans h'.symm
  · intro t q r
    have hreset : ((Recorder.start r.seed r.debug).suppress r.transcript.suppressed).reset = r.reset := rfl
    simp only [runQuery, ready, hreset]
  · intro before request last hd
    have hready := (sameSetup_serveAll s before).status.trans ready
    have hlast : last = (s.serveAll before).2.journaled ([] ++ s.callsAll before) :=
      congrArg Prod.snd (serveAll_journaled s ready before [])
    have hserve := serve_journaled (s.serveAll before).2 hready request ([] ++ s.callsAll before)
    rw [← hlast] at hserve
    rw [hserve] at hd ⊢
    refine ⟨⟨_, by rw [hlast]; rfl, calls_needNoDatabase hready request hd⟩, ?_, ?_⟩
    · rintro arguments mode rfl
      exact serve_scan_noDatabase hready arguments mode hd
    · rintro arguments mode r rfl
      exact serve_discover_noDatabase hready arguments mode r hd

/-- A backend with one drive and no drive database. When it examines the drive it notes its name. -/
def plainDrive : Backend Unit DeviceFacts :=
  { oneDrive with
    loadDatabase _ s := (false, s)
    examine _ d r s := (d, (r.emit .plain s!"{d.name}\n").write (.set "name" (.text d.name)), s) }

theorem requests_do_not_leak_plainDrive :
    let s := start plainDrive {} (.builtin debugBuild) ()
    let last := ((s.journaled []).serveAll [.health "/dev/sda"]).2
    s.status = .ready ∧ plainDrive.Stateless ∧
      ((s.serveAll [.scan "" .plain]).2.serve (.info "/dev/sda")).1 =
        ((s.serveAll []).2.serve (.info "/dev/sda")).1 ∧
      (last.serve (.identity "/dev/sda")).2.database = some false ∧
      ∃ calls, (last.serve (.identity "/dev/sda")).2.state.2 = last.state.2 ++ calls ∧
        ∀ c ∈ calls, c.NeedsNoDatabase := by
  intro s last
  have hb : plainDrive.Stateless :=
    ⟨fun _ _ _ => rfl, fun _ _ _ _ => rfl, fun _ _ _ _ _ => rfl, fun _ _ _ _ _ => rfl, fun _ _ _ => rfl,
      fun _ _ _ _ _ => rfl, fun _ _ _ _ _ => rfl⟩
  obtain ⟨hsame, -, hbare⟩ := requests_do_not_leak s rfl
  have hnone : (last.serve (.identity "/dev/sda")).2.database = some false := rfl
  obtain ⟨hcalls, -⟩ := hbare [.health "/dev/sda"] (.identity "/dev/sda") (by rw [hnone]; decide)
  exact ⟨rfl, hb, hsame hb _ _ _, hnone, hcalls⟩

/-- Once the device is open nothing fails any more. -/
theorem followPlan_error {d : δ} {p : Plan} {r : Recorder} {e : Fault} (h : (s.followPlan d p r).1 = .error e) :
    (s.followPlan d p r).2.1 = r := by
  unfold followPlan at h ⊢
  dsimp only at h ⊢
  split at h
  · simp [*]
  · cases h

theorem runQuery_error {t : Target} {q : Query} {r : Recorder} {e : Fault} (ready : s.status = .ready)
    (h : (s.runQuery t q r).1 = .ok (.error e)) : (s.runQuery t q r).2.1 = r.reset := by
  unfold runQuery at h ⊢
  simp only [ready] at h ⊢
  cases hf : (s.backend.find t s.state).1 with
  | error e' => simp
  | ok d =>
    cases hp : q.plan s.config.baseline with
    | error trap => simp [hf, queryFound, hp] at h
    | ok p =>
      simp only [hf, queryFound, hp] at h ⊢
      exact followPlan_error (Except.ok.inj h)

theorem runScan_error {arguments : String} {mode : ScanMode} {r : Recorder} {e : Fault}
    (ready : s.status = .ready) (h : (s.runScan arguments mode r).1 = .error e) :
    s.needDatabase.1 = false := by
  unfold runScan at h
  cases hl : s.needDatabase.1 with
  | false => rfl
  | true => simp [ready, hl] at h

/-- A query that fails leaves nothing of earlier calls in the recorder. A scan fails for want of a drive
database only, and then the recorder is as it was before. -/
theorem failed_query_leaves_nothing (s : Service σ δ) (ready : s.status = .ready) (r : Recorder) :
    (∀ t q e, (s.runQuery t q r).1 = .ok (.error e) →
      let r' := (s.runQuery t q r).2.1
      r'.transcript.events = [] ∧ r'.report = {} ∧ r'.tolerance = r'.seed ∧ r'.seed = r.seed) ∧
    ∀ arguments mode e, (s.runScan arguments mode r).1 = .error e →
      s.needDatabase.1 = false ∧ e = .invalidConfig .noDriveDatabase ∧
        (s.runScan arguments mode r).2.1 = r := by
  refine ⟨fun t q e h => ?_, fun arguments mode e h => ?_⟩
  · rw [runQuery_error ready h]
    exact ⟨rfl, rfl, rfl, rfl⟩
  · have hfalse := runScan_error ready h
    obtain ⟨hscan, -⟩ := runScan_noDatabase ready arguments mode r hfalse
    rw [hscan] at h ⊢
    cases h
    exact ⟨hfalse, rfl, rfl⟩

theorem failed_query_leaves_nothing_plainDrive :
    let s := start plainDrive {} (.builtin debugBuild) ()
    let used := (s.runQuery { name := "/dev/sda" } .health s.recorder).2.1
    let failed := s.runQuery { name := "/dev/sdb" } .health used
    s.status = .ready ∧ used.transcript.events = [⟨.plain, "/dev/sda\n"⟩, ⟨.plain, "/dev/sda\n"⟩] ∧
      failed.1 = .ok (.error (.noSuchDevice "/dev/sdb")) ∧ failed.2.1.transcript.events = [] := by
  intro s used failed
  obtain ⟨hquery, -⟩ := failed_query_leaves_nothing s rfl used
  exact ⟨rfl, rfl, rfl, (hquery { name := "/dev/sdb" } .health _ rfl).1⟩

/-- After a scan that failed, the text and the report of the query before it can still be read. -/
theorem failed_scan_keeps_old_answer :
    let s := start plainDrive {} (.builtin debugBuild) ()
    let query := s.runQuery { name := "/dev/sda" } .health s.recorder
    let scan := query.2.2.runScan "" .plain query.2.1
    s.status = .ready ∧ query.1 = .ok (.ok ()) ∧ scan.1 = .error (.invalidConfig .noDriveDatabase) ∧
      scan.2.1.transcript.lines = ["/dev/sda", "/dev/sda"] ∧
      scan.2.1.report.get? "name" = some (.text "/dev/sda") := by
  intro s query scan
  have hevents : scan.2.1.transcript.events = [⟨.plain, "/dev/sda\n"⟩, ⟨.plain, "/dev/sda\n"⟩] := rfl
  have hlines : scan.2.1.transcript.lines = ["/dev/sda", "/dev/sda"] := by
    rw [Transcript.lines, hevents]
    decide +kernel
  exact ⟨rfl, rfl, rfl, hlines, rfl⟩

end Service

end DriveHealth
