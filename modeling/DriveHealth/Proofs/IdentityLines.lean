import DriveHealth.Examination
import DriveHealth.Proofs.Cuts
import DriveHealth.Proofs.DriveInfo
set_option autoImplicit false

/-!
Names of a device in text and report. What the text says behind the label of a name is what the report has, as long
as the name stands on one line; a name with a line feed in it makes lines of its own.
-/

namespace DriveHealth

open Text

namespace Ata.Identity

theorem exists_block_of_decode {reply : List UInt8} {id : Identity} (h : decode reply = .ok id) :
    ∃ b : Block 512, b.octets = reply ∧ ofBlock b = id := by
  rw [decode, Block.require] at h
  split at h
  · cases h
    exact ⟨⟨reply, ‹_›⟩, rfl, rfl⟩
  · cases h

/-- The section reads no words between 10 and 46 but those of the names. -/
theorem alike_of_sameApart {b b' : Block 512} (h : SameApart (ofBlock b).names b.octets b'.octets)
    (hsum : (ofBlock b').checksumOk? = (ofBlock b).checksumOk?) : (ofBlock b).Alike (ofBlock b') := by
  have hfield {start len : Nat} (hstart : 94 ≤ start) : field b'.octets start len = field b.octets start len :=
    h.field_eq (by simp [names]; omega)
  have hword (i : Nat) (hi : i.blt 256) (hlow : 47 ≤ i) : (ofBlock b').word i hi = (ofBlock b).word i hi := by
    rw [word_ofBlock, word_ofBlock, hfield (by omega)]
  have hbit (i k : Nat) (hi : i.blt 256) (hlow : 47 ≤ i) : (ofBlock b').bit i k hi = (ofBlock b).bit i k hi :=
    congrArg (Nat.testBit · k) (hword i hi hlow)
  have hnumber {start stop : Nat} (hlow : 47 ≤ start) (hle : start ≤ stop) (hstop : stop ≤ 256) :
      number ((ofBlock b').range start stop) = number ((ofBlock b).range start stop) := by
    rw [number_range b' hle hstop, number_range b hle hstop, hfield (by omega)]
  have hsectors : (ofBlock b').sectors = (ofBlock b).sectors := by
    rw [sectors, sectors, hasLba48, hasLba48, hbit 83 10 rfl (by decide),
      hnumber (by decide) (by decide) (by decide), hnumber (by decide) (by decide) (by decide)]
  have hsize : (ofBlock b').logicalSectorSize = (ofBlock b).logicalSectorSize := by
    rw [logicalSectorSize, logicalSectorSize, hnumber (by decide) (by decide) (by decide),
      hbit 106 14 rfl (by decide), hbit 106 15 rfl (by decide), hbit 106 12 rfl (by decide)]
  refine ⟨?_, hsize, ?_, hbit 82 0 rfl (by decide), hbit 85 0 rfl (by decide), hsum⟩
  · rw [capacityBytes, capacityBytes, hsectors, hsize]
  · rw [rotationRate?, rotationRate?, hword 217 rfl (by decide)]

end Ata.Identity

theorem Scsi.Inquiry.exists_block_of_decode {reply : List UInt8} {i : Inquiry} (h : decode reply = .ok i) :
    ∃ b : Block 36, b.octets = reply ∧ i = {
      peripheralType := b.byte 0 % 32
      vendor := text (b.slice 8 8).octets
      product := text (b.slice 16 16).octets
      revision := text (b.slice 32 4).octets } := by
  rw [decode, Block.ofOctets?] at h
  by_cases hlength : 36 ≤ reply.length
  · rw [dif_pos hlength] at h
    cases h
    exact ⟨⟨reply, hlength⟩, rfl, rfl⟩
  · rw [dif_neg hlength] at h
    cases h

namespace Nvme.Controller

theorem exists_block_of_decode {reply : List UInt8} {c : Controller} (h : decode reply = .ok c) :
    ∃ b : Block 4096, b.octets = reply ∧ ofBlock b = c := by
  rw [decode, Block.require] at h
  split at h
  · cases h
    exact ⟨⟨reply, ‹_›⟩, rfl, rfl⟩
  · cases h

theorem alike_of_sameApart {b b' : Block 4096} (h : SameApart (ofBlock b).names b.octets b'.octets) :
    (ofBlock b).Alike (ofBlock b') := by
  have hfield {start len : Nat} (hstart : start + len ≤ 4 ∨ 72 ≤ start) :
      Ata.field b'.octets start len = Ata.field b.octets start len :=
    h.field_eq (by simp [names]; omega)
  exact ⟨hfield (by decide), hfield (by decide), hfield (by decide), hfield (by decide), hfield (by decide),
    hfield (by decide)⟩

end Nvme.Controller

/-- The drive information section of a device that has told what it is. -/
inductive InfoSection where
  | ata (wanted : Ata.Sections) (reply : List UInt8) (id : Ata.Identity) (h : Ata.Identity.decode reply = .ok id)
  | scsi (reply : List UInt8) (i : Scsi.Inquiry) (h : Scsi.Inquiry.decode reply = .ok i)
  | nvme (reply : List UInt8) (c : Nvme.Controller) (h : Nvme.Controller.decode reply = .ok c)

namespace InfoSection

variable {σ : Type}

def protocol : InfoSection → Protocol
  | .ata .. => .ata
  | .scsi .. => .scsi
  | .nvme .. => .nvme

def names : InfoSection → List DeviceName
  | .ata _ _ id _ => id.names
  | .scsi _ i _ => i.names
  | .nvme _ c _ => c.names

def run (link : Link σ) (state : σ) (r : Recorder) : InfoSection → Recorder
  | .ata wanted _ id _ => (Procedure.run link.ata Ata.Taskfile.name (r.debug.ata > 0)
      (Ata.Exam.driveInfo id wanted) state r).recorder
  | .scsi _ i _ => (Procedure.run link.scsi Scsi.Command.name (r.debug.scsi > 0)
      (Scsi.Exam.driveInfo i) state r).recorder
  | .nvme _ c _ => (Procedure.run link.nvme Nvme.Command.name (r.debug.nvme > 0)
      (Nvme.Exam.driveInfo c) state r).recorder

/-- Sections of replies that differ at most in the names. The checksum of an ATA drive is taken over the names too,
so it has to come out the same way. -/
def Alike : InfoSection → InfoSection → Prop
  | .ata wanted reply id _, .ata wanted' reply' id' _ =>
    wanted' = wanted ∧ SameApart id.names reply reply' ∧ id'.checksumOk? = id.checksumOk?
  | .scsi reply i _, .scsi reply' _ _ => SameApart i.names reply reply'
  | .nvme reply c _, .nvme reply' _ _ => SameApart c.names reply reply'
  | _, _ => False

theorem Alike.refl (d : InfoSection) : d.Alike d := by
  cases d with
  | ata wanted reply id h => exact ⟨rfl, fun _ _ => rfl, rfl⟩
  | scsi reply i h => exact fun _ _ => rfl
  | nvme reply c h => exact fun _ _ => rfl

/-- If the capacity of a SCSI device cannot be read, the message that says why stands on one line. -/
def PlainFailure (link : Link σ) (state : σ) : InfoSection → Prop
  | .scsi .. => ∀ e, (link.scsi.send .readCapacity state).1.bind Scsi.Capacity.decode = .error e →
      '\n' ∉ e.message.toList
  | _ => True

theorem distinct_names (d : InfoSection) : DeviceName.Distinct d.names := by
  cases d with
  | ata | scsi | nvme =>
    simp [names, DeviceName.Distinct, Ata.Identity.names, Scsi.Inquiry.names, Nvme.Controller.names]
    decide

theorem title_mem_nameTitles (d : InfoSection) : ∀ n ∈ d.names, n.title ∈ nameTitles := by
  cases d <;> simp [names, Ata.Identity.names, Scsi.Inquiry.names, Nvme.Controller.names, nameTitles]

theorem heads_infoHeading (d : InfoSection) : ∀ n ∈ d.names, n.heads infoHeading = false := by
  have hfree : ∀ title ∈ nameTitles, title.toList.isPrefixOf infoHeading.toList = false := by decide
  exact fun n hn => hfree _ (d.title_mem_nameTitles n hn)

theorem length_names (d : InfoSection) : d.names.length = 3 := by
  cases d <;> rfl

theorem getLast?_value {d : InfoSection} (hd : d.protocol ≠ .nvme) : ∀ n ∈ d.names,
    n.value.toList.getLast? ≠ some '\r' := by
  have hstripped (cs : List Char) : (stripped isBlank cs).getLast? ≠ some '\r' := fun hlast =>
    absurd (getLast?_stripped isBlank cs _ hlast) (by decide)
  cases d with
  | nvme reply c h => exact absurd rfl hd
  | ata wanted reply id h =>
    have htext (ws : List Nat) : (Ata.Identity.textOf ws).toList.getLast? ≠ some '\r' := by
      simp [Ata.Identity.textOf, hstripped]
    simp [names, Ata.Identity.names, Ata.Identity.model, Ata.Identity.serial, Ata.Identity.firmware, htext]
  | scsi reply i h =>
    obtain ⟨b, -, rfl⟩ := Scsi.Inquiry.exists_block_of_decode h
    simp [names, Scsi.Inquiry.names, Scsi.Inquiry.text, hstripped]

theorem exists_asides (d : InfoSection) (link : Link σ) (state : σ) {r : Recorder}
    (shown : r.transcript.suppressed = false) : ∃ asides : List Event,
      (d.PlainFailure link state → ∀ e ∈ asides, IsAside nameTitles e.text) ∧
      ∀ d', d.Alike d' → Introduced d'.names asides r (d'.run link state r) := by
  cases d with
  | ata wanted reply id h =>
    obtain ⟨asides, hasides, hintroduced⟩ :=
      Ata.Exam.introduced_driveInfo (r.debug.ata > 0) state shown link.ata id wanted
    refine ⟨asides, fun _ => hasides, fun d' halike => ?_⟩
    cases d' with
    | scsi | nvme => exact halike.elim
    | ata wanted' reply' id' h' =>
      obtain ⟨rfl, hsame, hsum⟩ := halike
      obtain ⟨b, rfl, rfl⟩ := Ata.Identity.exists_block_of_decode h
      obtain ⟨b', rfl, rfl⟩ := Ata.Identity.exists_block_of_decode h'
      exact hintroduced _ (Ata.Identity.alike_of_sameApart hsame hsum)
  | scsi reply i h =>
    obtain ⟨asides, hasides, hintroduced⟩ :=
      Scsi.Exam.introduced_driveInfo (r.debug.scsi > 0) state shown link.scsi i
    refine ⟨asides, hasides, fun d' halike => ?_⟩
    cases d' with
    | ata | nvme => exact halike.elim
    | scsi reply' i' h' =>
      obtain ⟨b, rfl, rfl⟩ := Scsi.Inquiry.exists_block_of_decode h
      obtain ⟨b', rfl, rfl⟩ := Scsi.Inquiry.exists_block_of_decode h'
      have hfield : Ata.field b'.octets 0 1 = Ata.field b.octets 0 1 :=
        halike.field_eq (by simp [Scsi.Inquiry.names])
      have hbyte : b'.byte 0 = b.byte 0 :=
        (Ata.byte_eq_field b' 0 rfl).trans (hfield.trans (Ata.byte_eq_field b 0 rfl).symm)
      exact hintroduced _ (congrArg (· % 32) hbyte)
  | nvme reply c h =>
    obtain ⟨asides, hasides, hintroduced⟩ :=
      Nvme.Exam.introduced_driveInfo (r.debug.nvme > 0) state shown link.nvme c
    refine ⟨asides, fun _ => hasides, fun d' halike => ?_⟩
    cases d' with
    | ata | scsi => exact halike.elim
    | nvme reply' c' h' =>
      obtain ⟨b, rfl, rfl⟩ := Nvme.Controller.exists_block_of_decode h
      obtain ⟨b', rfl, rfl⟩ := Nvme.Controller.exists_block_of_decode h'
      exact hintroduced _ (Nvme.Controller.alike_of_sameApart halike)

end InfoSection

/-- What text and report have of some names: behind the heading, the lines of each name and then the others. -/
structure Tells (names : List DeviceName) (others : List String) (r : Recorder) : Prop where
  lines : r.transcript.lines = infoHeading :: (names.flatMap DeviceName.lines ++ others)
  reported : ∀ n ∈ names, r.report.get? n.key = some (.text n.value)

theorem Introduced.tells {names : List DeviceName} {asides : List Event} {r r' : Recorder}
    (h : Introduced names asides r r') (blank : r.transcript.events = []) : Tells names (Event.render asides) r' := by
  refine ⟨?_, h.reported⟩
  let heading : List Event := [⟨.plain, infoHeading ++ "\n"⟩]
  let named : List Event := names.map fun n => ⟨.plain, n.line ++ "\n"⟩
  have hheading : Event.Whole heading := by simp [Event.Whole, heading]
  have hnamed : Event.Whole named := by simp [Event.Whole, named]
  have hfirst : Event.render heading = [infoHeading] := by decide
  calc Event.render r'.transcript.events
      = Event.render (heading ++ (named ++ asides)) := by rw [h.events, blank]; rfl
    _ = Event.render heading ++ (Event.render named ++ Event.render asides) := by
      rw [Event.render_append hheading, Event.render_append hnamed]
    _ = infoHeading :: (names.flatMap DeviceName.lines ++ Event.render asides) := by
      rw [hfirst, DeviceName.render_lines]
      rfl

theorem Tells.filter_heads {names : List DeviceName} {others : List String} {r : Recorder} (h : Tells names others r)
    (hdistinct : DeviceName.Distinct names) (hheading : ∀ n ∈ names, n.heads infoHeading = false)
    (hothers : ∀ n ∈ names, ∀ l ∈ others, n.heads l = false)
    (hline : ∀ n ∈ names, OneLine n.value.toList) :
    ∀ n ∈ names, r.transcript.lines.filter n.heads = [n.line] := by
  intro n hn
  have hlines : names.flatMap DeviceName.lines = names.map DeviceName.line := by
    rw [List.map_eq_flatMap]
    exact List.flatMap_congr fun n hn => DeviceName.lines_eq_iff.2 (hline n hn)
  have hrest : others.filter n.heads = [] := by
    rw [List.filter_eq_nil_iff]
    exact fun l hl => by simp [hothers n hn l hl]
  have hfirst : ¬ n.heads infoHeading = true := by simp [hheading n hn]
  rw [h.lines, List.filter_cons_of_neg hfirst, List.filter_append, hrest, List.append_nil, hlines,
    DeviceName.filter_heads hdistinct n hn]

theorem Tells.length_lines {names : List DeviceName} {others : List String} {r : Recorder} (h : Tells names others r)
    (hline : ∀ n ∈ names, '\n' ∉ n.value.toList) :
    r.transcript.lines.length = 1 + names.length + others.length := by
  have hlines : ∀ n ∈ names, n.lines.length = 1 := fun n hn => by
    rw [DeviceName.lines_of_no_newline (hline n hn)]
    rfl
  have hsum : (names.flatMap DeviceName.lines).length = names.length := by
    rw [List.length_flatMap, List.map_congr_left hlines]
    simp
  rw [h.lines, List.length_cons, List.length_append, hsum]
  omega

variable {σ : Type}

/-- Names in text and report. The report has each name as the device gives it. The text has, behind the heading, the
lines of each name and then others, which are the same for all devices that are alike apart from the names. A name
has one line that says exactly what the report says if and only if it has no line feed and no carriage return at its
end, as only a controller's name can have; if all names are like that, no other line of the section begins with one
of their titles. As long as no name has a line feed, the names do not matter for the number of lines. -/
theorem InfoSection.names_tell (d : InfoSection) (link : Link σ) (state : σ) {r : Recorder}
    (blank : r.transcript = {}) :
    let lines := (d.run link state r).transcript.lines
    (∃ others : List String, ∀ d', d.Alike d' → Tells d'.names others (d'.run link state r)) ∧
    (∀ n ∈ d.names, n.lines = [n.label ++ n.value] ↔ OneLine n.value.toList) ∧
    (d.protocol ≠ .nvme → ∀ n ∈ d.names, n.value.toList.getLast? ≠ some '\r') ∧
    (d.PlainFailure link state → (∀ n ∈ d.names, OneLine n.value.toList) →
      ∀ n ∈ d.names, lines.filter n.heads = [n.label ++ n.value]) ∧
    ∀ d', d.Alike d' → (∀ n ∈ d.names ++ d'.names, '\n' ∉ n.value.toList) →
      (d'.run link state r).transcript.lines.length = lines.length := by
  intro lines
  have shown : r.transcript.suppressed = false := by rw [blank]
  have hblank : r.transcript.events = [] := by rw [blank]
  obtain ⟨asides, hasides, hintroduced⟩ := d.exists_asides link state shown
  have htells (d' : InfoSection) (halike : d.Alike d') :
      Tells d'.names (Event.render asides) (d'.run link state r) := (hintroduced d' halike).tells hblank
  refine ⟨⟨_, htells⟩, fun n _ => DeviceName.lines_eq_iff, getLast?_value, fun hplain hline => ?_,
    fun d' halike hline => ?_⟩
  · refine (htells d (.refl d)).filter_heads d.distinct_names d.heads_infoHeading (fun n hn l hl => ?_) hline
    exact IsAside.render_all (hasides hplain) l hl _ (d.title_mem_nameTitles n hn)
  · obtain ⟨hd, hd'⟩ := List.forall_mem_append.1 hline
    have hlength : lines.length = _ := (htells d (.refl d)).length_lines hd
    rw [(htells d' halike).length_lines hd', hlength, d.length_names, d'.length_names]

def Scsi.Inquiry.plainReply (text : String) : List UInt8 :=
  List.replicate 8 0 ++ text.toList.map fun c => UInt8.ofNat c.toNat

theorem InfoSection.names_tell_disk :
    let d : InfoSection :=
      .scsi (Scsi.Inquiry.plainReply "ACME    Disk            1.0 ") ⟨0, "ACME", "Disk", "1.0"⟩ rfl
    let r := Recorder.start ⟨0, false⟩ {}
    let lines := (d.run .silent () r).transcript.lines
    r.transcript = {} ∧ d.PlainFailure .silent () ∧ (∀ n ∈ d.names, OneLine n.value.toList) ∧
      lines.filter ("Product:".toList.isPrefixOf ·.toList) = ["Product:              Disk"] := by
  intro d r lines
  have hplain : d.PlainFailure Link.silent () := by
    intro e he
    cases he
    decide
  have hline : ∀ n ∈ d.names, OneLine n.value.toList := by decide
  obtain ⟨-, -, -, hone, -⟩ := d.names_tell .silent () (r := r) rfl
  have hproduct := hone hplain hline d.names[1] (List.getElem_mem _)
  have hlabel : d.names[1].label ++ d.names[1].value = "Product:              Disk" := by decide
  rw [hlabel] at hproduct
  exact ⟨rfl, hplain, hline, hproduct⟩

/-- Two disks whose replies differ in one octet, which is a line feed in the second one. Its product has no line that
says what the report says, two lines begin with the title of the revision, and there is a line more. -/
theorem InfoSection.names_of_newline :
    let blank : InfoSection :=
      .scsi (Scsi.Inquiry.plainReply "ACME    X Revision: 9   1.0 ") ⟨0, "ACME", "X Revision: 9", "1.0"⟩ rfl
    let fed : InfoSection :=
      .scsi (Scsi.Inquiry.plainReply "ACME    X\nRevision: 9   1.0 ") ⟨0, "ACME", "X\nRevision: 9", "1.0"⟩ rfl
    let r := Recorder.start ⟨0, false⟩ {}
    let lines := (fed.run .silent () r).transcript.lines
    blank.Alike fed ∧ (fed.run .silent () r).report.get? "scsi_product" = some (.text "X\nRevision: 9") ∧
      lines.filter ("Product:".toList.isPrefixOf ·.toList) = ["Product:              X"] ∧
      lines.filter ("Revision:".toList.isPrefixOf ·.toList) = ["Revision: 9", "Revision:             1.0"] ∧
      lines.length = (blank.run .silent () r).transcript.lines.length + 1 := by
  intro blank fed r lines
  refine ⟨fun i hi => ?_, rfl, by decide +kernel⟩
  have hproduct : i < 16 ∨ 32 ≤ i := hi blank.names[1] (List.getElem_mem _)
  by_cases hlast : i < 36
  · have hsame : ∀ i < 36, i < 16 ∨ 32 ≤ i →
        (Scsi.Inquiry.plainReply "ACME    X\nRevision: 9   1.0 ")[i]? =
          (Scsi.Inquiry.plainReply "ACME    X Revision: 9   1.0 ")[i]? := by decide
    exact hsame i hlast hproduct
  · rw [List.getElem?_eq_none (Nat.le_of_not_lt hlast), List.getElem?_eq_none (Nat.le_of_not_lt hlast)]

end DriveHealth
