import DriveHealth.Linux.Backend
import Mathlib.Logic.Relation
set_option autoImplicit false

/-!
The history of a device, from when it was found. It is opened, told apart and closed in any order, and each of these
may fail halfway; its type, its protocols and its names change together or not at all.
-/

namespace DriveHealth.Linux

namespace Device

/-- What may happen to a device. Without an answer to an INQUIRY it is not told apart, and neither is one whose type
was asked for or has been found out. -/
inductive Step (d : Device) : Device → Prop where
  | inquiry (i : Scsi.Inquiry) (hrequested : d.requested = none) (htype : d.type = .scsi) : Step d (d.applyInquiry i)
  | connect {σ : Type} (host : Host σ) (s : σ) : Step d (d.connect host s).1
  | close : Step d d.close

/-- All that comes of opening a device. A probe that fails leaves nothing behind but its fault. -/
inductive Opening (d : Device) : Device → Prop where
  | failed (e : Fault) : Opening d (d.failed e)
  | bridged (h : d.requested = some .sat) : Opening d { d with isOpen := true }.bridged
  | probed (h : d.requested = none) (htype : d.type = .scsi) (i : Scsi.Inquiry) :
      Opening d ({ d with isOpen := true }.applyInquiry i)
  | plain : Opening d { d with isOpen := true }

section

variable {σ : Type} (host : Host σ) (d : Device) (s : σ)

theorem opening_probe (h : d.requested = none) (htype : d.type = .scsi) :
    Opening d ({ d with isOpen := true }.probe host s).1 := by
  simp only [probe]
  split
  · exact .probed h htype _
  · exact .failed _

theorem opening_connect : Opening d (d.connect host s).1 := by
  simp only [connect]
  split
  · exact .failed _
  · by_cases hsat : d.requested = some .sat
    · rw [if_pos hsat]
      exact .bridged hsat
    · by_cases hleft : d.requested = none ∧ d.type = .scsi
      · rw [if_neg hsat, if_pos hleft]
        exact opening_probe host d _ hleft.1 hleft.2
      · rw [if_neg hsat, if_neg hleft]
        exact .plain

end

/-- What holds of a device all along, since it was found. -/
structure Keeps (found d : Device) : Prop where
  name : d.name = found.name
  requested : d.requested = found.requested
  type : ∀ t, d.requested = some t → d.type = t
  protocols : d.protocols = .singleton d.type.protocol
  infoName : d.infoName = d.name ∨ d.infoName = d.name ++ " [SAT]" ∧ d.type = .sat

section

variable {found d d' : Device}

theorem keeps_ofName (name : String) (requested : Option DeviceType) :
    (ofName name requested).Keeps (ofName name requested) := by
  refine ⟨rfl, rfl, fun t ht => ?_, rfl, .inl rfl⟩
  have hrequested : requested = some t := ht
  rw [ofName, hrequested]
  rfl

theorem Keeps.setOpen (h : Keeps found d) (isOpen : Bool) (lastError : Option String) :
    Keeps found { d with isOpen, lastError } :=
  ⟨h.name, h.requested, h.type, h.protocols, h.infoName⟩

theorem Keeps.bridged (h : Keeps found d) (hfree : ∀ t, d.requested = some t → t = .sat) : Keeps found d.bridged :=
  ⟨h.name, h.requested, fun t ht => (hfree t ht).symm, rfl, .inr ⟨rfl, rfl⟩⟩

theorem Keeps.applyInquiry (h : Keeps found d) (hfree : d.requested = none) (i : Scsi.Inquiry) :
    Keeps found (d.applyInquiry i) := by
  rw [Device.applyInquiry]
  split
  · exact h.bridged fun t ht => by simp [hfree] at ht
  · exact h

theorem Keeps.opening (h : Keeps found d) (ho : Opening d d') : Keeps found d' := by
  -- the type changes for `sat` and for no type that was asked for, so a type that was asked for stays
  have hopen : Keeps found { d with isOpen := true } := h.setOpen true d.lastError
  cases ho with
  | failed e => exact h.setOpen false _
  | bridged hsat => exact hopen.bridged fun t ht => Option.some.inj (ht.symm.trans hsat)
  | probed hfree _ i => exact hopen.applyInquiry hfree i
  | plain => exact hopen

theorem Keeps.step (h : Keeps found d) (hs : Step d d') : Keeps found d' := by
  cases hs with
  | inquiry i hfree _ => exact h.applyInquiry hfree i
  | connect host s => exact h.opening (opening_connect host d s)
  | close => exact h.setOpen false d.lastError

theorem Keeps.history (h : Keeps found d) (hs : Relation.ReflTransGen Step d d') : Keeps found d' := by
  induction hs with
  | refl => exact h
  | tail _ hlast ih => exact ih.step hlast

theorem Opening.isOpen_iff (ho : Opening d d') (h : d.lastError = none) :
    d'.isOpen = true ↔ d'.lastError = none := by
  cases ho with
  | failed e => simp [Device.failed]
  | bridged hsat => simp [Device.bridged, h]
  | probed hfree _ i =>
    rw [Device.applyInquiry]
    split <;> simp [Device.bridged, h]
  | plain => simp [h]

end

end Device

theorem DeviceType.name_of_ofName? {s : String} {t : DeviceType} (h : ofName? s = some t) : t.name = s := by
  simpa using List.find?_some h

/-- The file that a name stands for. -/
def pathOf (name : String) : String := if name.toList.head? = some '/' then name else s!"{directory}/{name}"

theorem find_eq (name : String) (hint : Option String) : find name hint =
    match hint with
    | none => some (.ofName (pathOf name) none)
    | some "auto" => some (.ofName (pathOf name) none)
    | some t => (DeviceType.ofName? t).map fun t => .ofName (pathOf name) (some t) := rfl

theorem find_eq_some {name : String} {hint : Option String} {found : Device} (h : find name hint = some found) :
    ∃ requested, found = .ofName (pathOf name) requested ∧
      ∀ t, hint = some t → t ≠ "auto" → requested.map DeviceType.name = some t := by
  rw [find_eq] at h
  split at h
  · exact ⟨none, (Option.some.inj h).symm, fun t ht => by cases ht⟩
  · exact ⟨none, (Option.some.inj h).symm, fun t ht hauto => absurd (Option.some.inj ht).symm hauto⟩
  · next t _ =>
    obtain ⟨type, htype, hfound⟩ := Option.map_eq_some_iff.1 h
    refine ⟨some type, hfound.symm, fun t' ht' _ => ?_⟩
    rw [← ht', Option.map_some, DeviceType.name_of_ofName? htype]

section

variable {σ : Type} (host : Host σ)

theorem after?_eq_some {word : String} {cs rest : List Char} (h : after? word cs = some rest) :
    cs = word.toList ++ rest := by
  obtain ⟨hleads, hrest⟩ := Option.ite_none_right_eq_some.1 h
  obtain ⟨tail, rfl⟩ := List.isPrefixOf_iff_prefix.1 hleads
  rw [← String.length_toList, List.drop_left, Option.some.injEq] at hrest
  rw [hrest]

theorem fileName?_inDirectory {file : List Char} (hslash : '/' ∉ file)
    (hplain : ∀ dots ∈ [[], ['.'], ['.', '.']], file ≠ dots) :
    fileName? ((directory ++ "/").toList ++ file) = some file := by
  have hsplit : ((directory ++ "/").toList ++ file).splitOn '/' = [[], ['d', 'e', 'v'], file] := by
    have hfile : file.splitOn '/' = [file] := List.splitOn_eq_singleton hslash
    have hdev : (['d', 'e', 'v'] ++ '/' :: file).splitOn '/' = ['d', 'e', 'v'] :: file.splitOn '/' :=
      List.splitOn_append_cons_self_of_not_mem (by decide) file
    have hroot : ([] ++ '/' :: (['d', 'e', 'v'] ++ '/' :: file)).splitOn '/' =
        [] :: (['d', 'e', 'v'] ++ '/' :: file).splitOn '/' :=
      List.splitOn_append_cons_self_of_not_mem (by decide) _
    rw [← hfile, ← hdev, ← hroot]
    rfl
  obtain ⟨hempty, hdot, hup⟩ : file ≠ [] ∧ file ≠ ['.'] ∧ file ≠ ['.', '.'] := by simpa using hplain
  rw [fileName?, hsplit]
  simp [hempty, hdot, hup]

theorem looksLikeNvme_disk {file : String} (h : isDisk file = true) :
    looksLikeNvme s!"{directory}/{file}" = false := by
  obtain ⟨cs, hafter, hletters⟩ := (Option.any_eq_true _ _).1 h
  have hfile : file.toList = 's' :: 'd' :: cs := after?_eq_some hafter
  have hslash : '/' ∉ file.toList := by
    rw [hfile]
    intro hmem
    obtain hmem | hmem | hmem : '/' = 's' ∨ '/' = 'd' ∨ '/' ∈ cs := by simpa using hmem
    · cases hmem
    · cases hmem
    · exact absurd (List.all_eq_true.1 (Bool.and_eq_true_iff.1 hletters).2 _ hmem) (by decide)
  have hplain : ∀ dots ∈ [[], ['.'], ['.', '.']], file.toList ≠ dots := by simp [hfile]
  have hname : fileName? (s!"{directory}/{file}").toList = some file.toList := by
    rw [String.toList_append]
    exact fileName?_inDirectory hslash hplain
  rw [looksLikeNvme, hname, hfile]
  rfl

theorem classify_history (path : String) (hpath : looksLikeNvme path = false) (s : σ) :
    Relation.ReflTransGen Device.Step (.ofName path none) (classify host path s).1 := by
  have htype : (Device.ofName path none).type = .scsi := by rw [Device.ofName, hpath]; rfl
  simp only [classify]
  split
  · exact .refl
  · split
    · exact .single (.inquiry _ rfl htype)
    · exact .refl

theorem mem_classifyAll {paths : List String} {s : σ} {d : Device} (h : d ∈ (classifyAll host paths s).1) :
    ∃ path ∈ paths, ∃ s', d = (classify host path s').1 := by
  induction paths generalizing s with
  | nil => cases h
  | cons path paths ih =>
    obtain rfl | h := List.mem_cons.1 h
    · exact ⟨path, List.mem_cons_self, s, rfl⟩
    · obtain ⟨path', hpath', s', hd⟩ := ih h
      exact ⟨path', List.mem_cons_of_mem path hpath', s', hd⟩

theorem mem_candidates {types files : List String} {wants : String → Bool} :
    (∀ path ∈ (candidates types wants files).disks, ∃ file, isDisk file = true ∧ path = s!"{directory}/{file}") ∧
    ∀ path ∈ (candidates types wants files).controllers,
      ∃ file, isController file = true ∧ path = s!"{directory}/{file}" := by
  have hkind (kind : String → Bool) (named : List String) :
      ∀ path ∈ ((named.filter kind).map fun file => s!"{directory}/{file}").mergeSort,
        ∃ file, kind file = true ∧ path = s!"{directory}/{file}" := by
    intro path h
    obtain ⟨file, hfile, rfl⟩ := List.mem_map.1 (List.mem_mergeSort.1 h)
    exact ⟨file, (List.mem_filter.1 hfile).2, rfl⟩
  refine ⟨fun path h => ?_, fun path h => ?_⟩
  · simp only [candidates] at h
    split at h
    · exact hkind isDisk _ path h
    · cases h
  · simp only [candidates] at h
    split at h
    · exact hkind isController _ path h
    · cases h

theorem find_file (file : String) :
    find s!"{directory}/{file}" none = some (.ofName s!"{directory}/{file}" none) := by
  have hroot : (s!"{directory}/{file}").toList.head? = some '/' := by
    rw [String.toList_append]
    rfl
  rw [find_eq, pathOf, if_pos hroot]

theorem scan_history {types : List String} {pattern : Option String} {r : Recorder} {s : σ} {ds : List Device}
    (h : (scan host types pattern r s).1 = .ok ds) :
    ∀ d ∈ ds, ∃ path found, find path none = some found ∧ Relation.ReflTransGen Device.Step found d := by
  unfold scan at h
  split at h
  · cases h
  · split at h
    · cases h
    · next pattern _ =>
      dsimp only at h
      split at h
      · cases h
      · next files _ =>
        obtain rfl := Except.ok.inj h
        intro d hd
        obtain hd | hd := List.mem_append.1 hd
        · obtain ⟨path, hpath, s', rfl⟩ := mem_classifyAll host hd
          obtain ⟨file, hfile, rfl⟩ := mem_candidates.1 path hpath
          exact ⟨_, _, find_file file, classify_history host _ (looksLikeNvme_disk hfile) s'⟩
        · obtain ⟨path, hpath, rfl⟩ := List.mem_map.1 hd
          obtain ⟨file, -, rfl⟩ := mem_candidates.2 path hpath
          exact ⟨_, _, find_file file, .refl⟩

end

theorem Device.Keeps.facts {found d : Device} (h : found.Keeps d) :
    (∃ p, d.facts.protocols.toList = [p] ∧ (p = .nvme ↔ d.facts.type = "nvme") ∧
      (p = .ata ↔ d.facts.type = "sat" ∨ d.facts.type = "ata") ∧ (p = .scsi ↔ d.facts.type = "scsi")) ∧
    d.facts.name = found.facts.name ∧
    (d.facts.infoName = d.facts.name ∨ d.facts.infoName = d.facts.name ++ " [SAT]" ∧ d.facts.type = "sat") := by
  refine ⟨⟨d.type.protocol, ?_, ?_⟩, h.name, h.infoName.imp_right fun ⟨hname, htype⟩ => ⟨hname, ?_⟩⟩
  · rw [Device.facts, h.protocols]
    cases d.type <;> rfl
  · simp only [Device.facts]
    cases d.type <;> decide
  · exact congrArg DeviceType.name htype

/-- However a device has been opened, told apart and closed since it was found, it has one protocol, which is that of
its type; a type that was asked for stays, and so does the name. A device that was just found is open when opened, or
has an error. The devices that a scan lists have a history like that as well. -/
theorem type_and_protocol_agree {name : String} {hint : Option String} {found d : Device}
    (hfound : find name hint = some found) (hd : Relation.ReflTransGen Device.Step found d) :
    (∃ p, d.facts.protocols.toList = [p] ∧ (p = .nvme ↔ d.facts.type = "nvme") ∧
      (p = .ata ↔ d.facts.type = "sat" ∨ d.facts.type = "ata") ∧ (p = .scsi ↔ d.facts.type = "scsi")) ∧
    (∀ t, hint = some t → t ≠ "auto" → d.facts.type = t) ∧
    d.facts.name = pathOf name ∧
    (d.facts.infoName = d.facts.name ∨ d.facts.infoName = d.facts.name ++ " [SAT]" ∧ d.facts.type = "sat") ∧
    (∀ {σ : Type} (host : Host σ) (s : σ), (found.connect host s).1.facts.isOpen = true ↔
      (found.connect host s).1.facts.lastError = none) ∧
    ∀ {σ : Type} (host : Host σ) (types : List String) (pattern : Option String) (r : Recorder) (s : σ)
      (ds : List Device), (scan host types pattern r s).1 = .ok ds →
        ∀ l ∈ ds, ∃ path start, find path none = some start ∧ Relation.ReflTransGen Device.Step start l := by
  obtain ⟨requested, rfl, hasked⟩ := find_eq_some hfound
  have hkeeps := (Device.keeps_ofName (pathOf name) requested).history hd
  obtain ⟨hprotocols, hname, hinfo⟩ := hkeeps.facts
  refine ⟨hprotocols, fun t ht hauto => ?_, hname, hinfo, fun host s => ?_,
    fun host _ _ _ _ _ h => scan_history host h⟩
  · obtain ⟨type, htype, hnamed⟩ := Option.map_eq_some_iff.1 (hasked t ht hauto)
    have hstays : d.type = type := hkeeps.type type (hkeeps.requested.trans htype)
    rw [Device.facts, hstays, hnamed]
  · exact (Device.opening_connect host _ s).isOpen_iff rfl

theorem type_and_protocol_agree_bridge :
    let inquiry : List UInt8 := List.replicate 8 0 ++ [0x41, 0x54, 0x41] ++ List.replicate 25 0x20
    let host : Host Unit := {
      hasDeviceDirectory _ := true
      hasDriveDatabase _ := false
      deviceFiles _ := (.ok [], ())
      openFile _ _ := (.ok (), ())
      scsi _ _ _ _ := (.ok { data := inquiry }, ())
      nvme _ _ _ := (.error (.io "No such command"), ())
      regex := .plain fun _ => none }
    let gone := { host with openFile _ _ := (.error (.io "No such device"), ()) }
    let found := Device.ofName "/dev/sda" none
    let d := ((found.connect host ()).1.close.connect gone ()).1
    let plain := Device.ofName "/dev/sdb" (some .scsi)
    find "sda" none = some found ∧ Relation.ReflTransGen Device.Step found d ∧
      d.facts.type = "sat" ∧ d.facts.protocols.toList = [.ata] ∧ d.facts.name = "/dev/sda" ∧
      d.facts.infoName = d.facts.name ++ " [SAT]" ∧
      ((found.connect gone ()).1.facts.isOpen = true ↔ (found.connect gone ()).1.facts.lastError = none) ∧
      find "/dev/sdb" (some "scsi") = some plain ∧ (plain.connect host ()).1.facts.type = "scsi" := by
  intro inquiry host gone found d plain
  have hfound : find "sda" none = some found := by decide
  have hplain : find "/dev/sdb" (some "scsi") = some plain := by decide
  have hd : Relation.ReflTransGen Device.Step found d :=
    ((Relation.ReflTransGen.single (.connect host ())).tail .close).tail (.connect gone ())
  have htype : d.facts.type = "sat" := by decide +kernel
  have hlabel : d.facts.infoName ≠ d.facts.name := by decide +kernel
  obtain ⟨⟨p, hp, -, hata, -⟩, -, hname, hinfo, hfresh, -⟩ := type_and_protocol_agree hfound hd
  obtain ⟨-, hasked, -⟩ := type_and_protocol_agree hplain (.single (.connect host ()))
  refine ⟨hfound, hd, htype, ?_, hname, (hinfo.resolve_left hlabel).1, hfresh gone (), hplain, ?_⟩
  · rw [hp, hata.2 (.inl htype)]
  · exact hasked "scsi" rfl (by decide)

end DriveHealth.Linux
