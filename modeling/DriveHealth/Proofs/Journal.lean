import DriveHealth.Service
set_option autoImplicit false

/-!
Journals: every call that reaches a backend, in order. A backend that keeps a journal answers as it would
without one, so that what a service adds to the journal says what the service does with any backend.
-/

namespace DriveHealth

inductive Backend.Call (δ : Type) where
  | start
  | loadDatabase (useDefault : Bool)
  | lookup (name : String) (typeHint : Option String)
  | scan (types : List String) (pattern : Option String)
  | connect (d : δ)
  | examine (t : Task) (d : δ)
  | close (d : δ)

namespace Backend

variable {σ δ : Type}

namespace Call

def closes : Call δ → Bool
  | .close _ => true
  | _ => false

end Call

variable (b : Backend σ δ)

/-- The backend, which now also writes down every call that it gets. -/
def journaled : Backend (σ × List (Call δ)) δ where
  start s := ((b.start s.1).1, (b.start s.1).2, s.2 ++ [.start])
  loadDatabase useDefault s :=
    ((b.loadDatabase useDefault s.1).1, (b.loadDatabase useDefault s.1).2,
      s.2 ++ [.loadDatabase useDefault])
  lookup name hint s :=
    ((b.lookup name hint s.1).1, (b.lookup name hint s.1).2, s.2 ++ [.lookup name hint])
  scan types pattern r s :=
    ((b.scan types pattern r s.1).1, (b.scan types pattern r s.1).2.1,
      (b.scan types pattern r s.1).2.2, s.2 ++ [.scan types pattern])
  connect d s := ((b.connect d s.1).1, (b.connect d s.1).2, s.2 ++ [.connect d])
  examine t d r s :=
    ((b.examine t d r s.1).1, (b.examine t d r s.1).2.1, (b.examine t d r s.1).2.2,
      s.2 ++ [.examine t d])
  close d s := ((b.close d s.1).1, (b.close d s.1).2, s.2 ++ [.close d])
  facts := b.facts

def findCalls (t : Target) : List (Call δ) :=
  if t.name.isEmpty then [] else [.lookup t.name t.typeHint]

/-- The calls that open a device: one that does not open is closed again. -/
def openCalls (d : δ) (s : σ) : List (Call δ) :=
  .connect d :: if (b.facts (b.connect d s).1).isOpen then [] else [.close (b.connect d s).1]

def closeCalls (d : δ) : List (Call δ) := if (b.facts d).isOpen then [.close d] else []

def examineCalls : List Task → δ → Recorder → σ → List (Call δ)
  | [], _, _, _ => []
  | t :: ts, d, r, s =>
    .examine t d ::
      examineCalls ts (b.examine t d r s).1 (b.examine t d r s).2.1 (b.examine t d r s).2.2

def carryOutCalls (p : Plan) (d : δ) (r : Recorder) (s : σ) : List (Call δ) :=
  let tasks := p.tasks (b.facts d).protocols
  b.examineCalls tasks d r s ++ b.closeCalls (b.examineAll tasks d r s).1

def listCalls (mode : ScanMode) : List δ → σ → List (Call δ)
  | [], _ => []
  | d :: ds, s =>
    match mode with
    | .plain => b.closeCalls d ++ listCalls mode ds (b.closeIfOpen d s).2
    | .opening =>
      .connect d :: b.closeCalls (b.connect d s).1 ++
        listCalls mode ds (b.closeIfOpen (b.connect d s).1 (b.connect d s).2).2

def discoverCalls (types : List String) (request : ScanRequest) (mode : ScanMode) (r : Recorder)
    (s : σ) : List (Call δ) :=
  let scanned := b.scan types request.pattern (r.suppress !r.debug.any) s
  .scan types request.pattern :: match scanned.1 with
    | .error _ => []
    | .ok ds => b.listCalls mode ds scanned.2.2

theorem find_journaled (t : Target) (s : σ) (j : List (Call δ)) :
    b.journaled.find t (s, j) = ((b.find t s).1, (b.find t s).2, j ++ findCalls t) := by
  unfold find findCalls
  by_cases hn : t.name.isEmpty
  · simp [hn]
  · cases hf : (b.lookup t.name t.typeHint s).1 <;> simp [hn, journaled, hf]

theorem openDevice_journaled (d : δ) (s : σ) (j : List (Call δ)) :
    b.journaled.openDevice d (s, j) =
      ((b.openDevice d s).1, (b.openDevice d s).2, j ++ b.openCalls d s) := by
  unfold openDevice openCalls
  by_cases ho : (b.facts (b.connect d s).1).isOpen <;> simp [journaled, ho]

theorem closeIfOpen_journaled (d : δ) (s : σ) (j : List (Call δ)) :
    b.journaled.closeIfOpen d (s, j) =
      ((b.closeIfOpen d s).1, (b.closeIfOpen d s).2, j ++ b.closeCalls d) := by
  unfold closeIfOpen closeCalls
  by_cases ho : (b.facts d).isOpen <;> simp [journaled, ho]

theorem examineAll_journaled (ts : List Task) (d : δ) (r : Recorder) (s : σ) (j : List (Call δ)) :
    b.journaled.examineAll ts d r (s, j) =
      ((b.examineAll ts d r s).1, (b.examineAll ts d r s).2.1, (b.examineAll ts d r s).2.2,
        j ++ b.examineCalls ts d r s) := by
  induction ts generalizing d r s j with
  | nil => simp [examineAll, examineCalls]
  | cons t ts ih =>
    have hx : b.journaled.examine t d r (s, j) = ((b.examine t d r s).1, (b.examine t d r s).2.1,
        (b.examine t d r s).2.2, j ++ [.examine t d]) := rfl
    simp only [examineAll, examineCalls, hx, ih, List.append_assoc, List.singleton_append]

theorem carryOut_journaled (p : Plan) (d : δ) (r : Recorder) (s : σ) (j : List (Call δ)) :
    b.journaled.carryOut p d r (s, j) =
      ((b.carryOut p d r s).1, (b.carryOut p d r s).2, j ++ b.carryOutCalls p d r s) := by
  have hf : b.journaled.facts = b.facts := rfl
  simp only [carryOut, carryOutCalls, hf, examineAll_journaled, closeIfOpen_journaled,
    List.append_assoc]

theorem listDevice_journaled (mode : ScanMode) (annotations : List String) (index : Nat) (d : δ)
    (r : Recorder) (s : σ) (j : List (Call δ)) :
    b.journaled.listDevice mode annotations index d r (s, j) =
      ((b.listDevice mode annotations index d r s).1, (b.listDevice mode annotations index d r s).2,
        j ++ b.listCalls mode [d] s) := by
  have hf : b.journaled.facts = b.facts := rfl
  cases mode with
  | plain => simp [listDevice, listCalls, hf, closeIfOpen_journaled]
  | opening =>
    have hc : b.journaled.connect d (s, j) =
        ((b.connect d s).1, (b.connect d s).2, j ++ [.connect d]) := rfl
    by_cases ho : (b.facts (b.connect d s).1).isOpen = true
    · simp [listDevice, listCalls, hf, hc, closeIfOpen_journaled, ho]
    · simp [listDevice, listCalls, closeCalls, hf, hc, ho]

theorem listDevice_snd (mode : ScanMode) (annotations : List String) (index : Nat) (d : δ)
    (r : Recorder) (s : σ) (ds : List δ) :
    b.listCalls mode (d :: ds) s =
      b.listCalls mode [d] s ++ b.listCalls mode ds (b.listDevice mode annotations index d r s).2 := by
  cases mode with
  | plain => simp [listDevice, listCalls]
  | opening =>
    by_cases ho : (b.facts (b.connect d s).1).isOpen = true
    · simp [listDevice, listCalls, ho]
    · simp [listDevice, listCalls, closeIfOpen, ho]

theorem listDevices_journaled (mode : ScanMode) (annotations : List String) (ds : List δ) (index : Nat)
    (r : Recorder) (s : σ) (j : List (Call δ)) :
    b.journaled.listDevices mode annotations index ds r (s, j) =
      ((b.listDevices mode annotations index ds r s).1, (b.listDevices mode annotations index ds r s).2,
        j ++ b.listCalls mode ds s) := by
  induction ds generalizing index r s j with
  | nil => simp [listDevices, listCalls]
  | cons d ds ih =>
    rw [b.listDevice_snd mode annotations index d r s ds]
    simp only [listDevices, listDevice_journaled, ih, List.append_assoc]

theorem discover_journaled (types : List String) (request : ScanRequest) (mode : ScanMode)
    (r : Recorder) (s : σ) (j : List (Call δ)) :
    b.journaled.discover types request mode r (s, j) =
      ((b.discover types request mode r s).1, (b.discover types request mode r s).2,
        j ++ b.discoverCalls types request mode r s) := by
  have hs : b.journaled.scan types request.pattern (r.suppress !r.debug.any) (s, j) =
      ((b.scan types request.pattern (r.suppress !r.debug.any) s).1,
        (b.scan types request.pattern (r.suppress !r.debug.any) s).2.1,
        (b.scan types request.pattern (r.suppress !r.debug.any) s).2.2,
        j ++ [.scan types request.pattern]) := rfl
  unfold discover discoverCalls
  rw [hs]
  cases hf : (b.scan types request.pattern (r.suppress !r.debug.any) s).1 with
  | error e => simp [hf]
  | ok ds => simp [hf, listDevices_journaled]

end Backend

namespace Service

open Backend

variable {σ δ : Type}

def journaled (s : Service σ δ) (j : List (Call δ)) : Service (σ × List (Call δ)) δ :=
  { s with backend := s.backend.journaled, state := (s.state, j) }

def databaseCalls (s : Service σ δ) : List (Call δ) :=
  if s.database.isSome then [] else [.loadDatabase s.config.useDefaultDatabase]

/-- The calls of a plan, from the drive database to the end. -/
def planCalls (s : Service σ δ) (d : δ) (p : Plan) (r : Recorder) : List (Call δ) :=
  let loaded := s.needDatabase.2
  s.databaseCalls ++ s.backend.openCalls d loaded.state ++
    match (s.backend.openDevice d loaded.state).1 with
    | .error _ => []
    | .ok d' =>
      s.backend.carryOutCalls (if s.needDatabase.1 then p else p.withoutPresets) d' r
        (s.backend.openDevice d loaded.state).2

/-- The calls of a query once its device is found. -/
def foundCalls (s : Service σ δ) (d : δ) (q : Query) (r : Recorder) : List (Call δ) :=
  match q.plan s.config.baseline with
  | .error _ => []
  | .ok p => s.planCalls d p r

def queryCalls (s : Service σ δ) (t : Target) (q : Query) (r : Recorder) : List (Call δ) :=
  findCalls t ++
    match (s.backend.find t s.state).1 with
    | .error _ => []
    | .ok d => { s with state := (s.backend.find t s.state).2 }.foundCalls d q r.reset

def scanCalls (s : Service σ δ) (arguments : String) (mode : ScanMode) (r : Recorder) :
    List (Call δ) :=
  s.databaseCalls ++
    if s.needDatabase.1 then
      s.backend.discoverCalls s.config.scanTypes (.parse arguments) mode r.reset
        s.needDatabase.2.state
    else []

@[simp] theorem backend_needDatabase (s : Service σ δ) : s.needDatabase.2.backend = s.backend := by
  unfold needDatabase
  split <;> rfl

@[simp] theorem config_needDatabase (s : Service σ δ) : s.needDatabase.2.config = s.config := by
  unfold needDatabase
  split <;> rfl

theorem needDatabase_journaled (s : Service σ δ) (j : List (Call δ)) :
    (s.journaled j).needDatabase =
      (s.needDatabase.1, s.needDatabase.2.journaled (j ++ s.databaseCalls)) := by
  unfold needDatabase databaseCalls
  cases hd : s.database <;> simp [journaled, Backend.journaled, hd]

theorem followPlan_journaled (s : Service σ δ) (d : δ) (p : Plan) (r : Recorder) (j : List (Call δ)) :
    (s.journaled j).followPlan d p r =
      ((s.followPlan d p r).1, (s.followPlan d p r).2.1,
        (s.followPlan d p r).2.2.journaled (j ++ s.planCalls d p r)) := by
  have ho := s.backend.openDevice_journaled d s.needDatabase.2.state (j ++ s.databaseCalls)
  unfold followPlan planCalls
  rw [needDatabase_journaled]
  cases hd : (s.backend.openDevice d s.needDatabase.2.state).1 with
  | error e => simp [journaled, ho, hd]
  | ok d' => simp [journaled, ho, hd, carryOut_journaled]

theorem queryFound_journaled (s : Service σ δ) (d : δ) (q : Query) (r : Recorder) (j : List (Call δ)) :
    (s.journaled j).queryFound d q r =
      ((s.queryFound d q r).1, (s.queryFound d q r).2.1,
        (s.queryFound d q r).2.2.journaled (j ++ s.foundCalls d q r)) := by
  have hconfig : (s.journaled j).config = s.config := rfl
  unfold queryFound foundCalls
  rw [hconfig]
  cases q.plan s.config.baseline with
  | error trap => simp
  | ok p => simp [followPlan_journaled]

theorem runQuery_journaled (s : Service σ δ) (hs : s.status = .ready) (t : Target) (q : Query)
    (r : Recorder) (j : List (Call δ)) :
    (s.journaled j).runQuery t q r =
      ((s.runQuery t q r).1, (s.runQuery t q r).2.1,
        (s.runQuery t q r).2.2.journaled (j ++ s.queryCalls t q r)) := by
  have hf := s.backend.find_journaled t s.state j
  have hj : (s.journaled j).status = .ready := hs
  unfold runQuery queryCalls
  simp only [hs, hj]
  cases hd : (s.backend.find t s.state).1 with
  | error e => simp [journaled, hf, hd]
  | ok d =>
    have hq := { s with state := (s.backend.find t s.state).2 }.queryFound_journaled d q r.reset
      (j ++ findCalls t)
    simp only [journaled, hs, hf, hd, List.append_assoc] at hq ⊢
    exact hq

theorem runScan_journaled (s : Service σ δ) (hs : s.status = .ready) (arguments : String)
    (mode : ScanMode) (r : Recorder) (j : List (Call δ)) :
    (s.journaled j).runScan arguments mode r =
      ((s.runScan arguments mode r).1, (s.runScan arguments mode r).2.1,
        (s.runScan arguments mode r).2.2.journaled (j ++ s.scanCalls arguments mode r)) := by
  have hj : (s.journaled j).status = .ready := hs
  unfold runScan scanCalls
  simp only [hs, hj, needDatabase_journaled]
  cases hd : s.needDatabase.1 with
  | false => simp
  | true => simp [journaled, discover_journaled]

end Service

end DriveHealth
