import CastAudit.Proofs.Cache.Entries
import CastAudit.Proofs.Packed.RoundTrip
import CastAudit.Proofs.Scan.Fields

/-!
# Entries are unpacked as they were packed

* `Record.Packable` — the record has one of the five kinds, and its texts and numbers fit;
* `unpack?_pack` — an entry with such records and no failures is read back;
* `Run.unpack?_entry` — so is the entry of a scan, unless the log or what is found in it is too large;
* `Run.faithful_of_small` — so only digests that collide could make a cache answer wrongly, unless a scan has four
  thousand million records.
-/

namespace CastAudit

/-- A record that an entry can hold. -/
structure Record.Packable (r : Record) : Prop where
  storable : r.Storable
  line : 0 ≤ r.line
  texts : ∀ s ∈ r.texts, s.length < Packed.sizeLimit

namespace Cache

open Packed (Reads Takes Takings)

section Fields

variable {α : Type} {readers : List (Packed.FieldReader α)} {name : String} {a : α}

theorem takes_of_reads {r : Packed.FieldReader α} {value : Text} {a' : α}
    (hfind : readers.find? (fun r => r.name == (name : Text)) = some r)
    (hname : (name : Text).length < Packed.sizeLimit) (h : Reads (r.read? a) value a') :
    Takes readers a (name, value) a' :=
  ⟨hname, r, hfind, h⟩

theorem takes_text {set : α → Text → α} {s : Text}
    (hfind : readers.find? (fun r => r.name == (name : Text)) = some (textField name set))
    (hname : (name : Text).length < Packed.sizeLimit) (h : s.length < Packed.sizeLimit) :
    Takes readers a (name, Packed.writeText s) (set a s) :=
  takes_of_reads hfind hname fun rest => by simp [textField, Packed.reads_text h rest]

theorem takes_int {set : α → Int → α} {i : Int}
    (hfind : readers.find? (fun r => r.name == (name : Text)) = some (intField name set))
    (hname : (name : Text).length < Packed.sizeLimit) (h : 0 ≤ i) (hmax : i ≤ Text.maxInt64) :
    Takes readers a (name, Packed.writeInt i) (set a i) :=
  takes_of_reads hfind hname fun rest => by simp [intField, Packed.reads_int h hmax rest]

end Fields

theorem ofCode_code {kind : Kind} (h : kind ∈ Kind.recognized) :
    Kind.ofCode kind.code = kind ∧ 0 ≤ kind.code ∧ kind.code ≤ Text.maxInt64 := by
  revert kind
  decide +kernel

/-- **A record is read back** over a blank one. -/
theorem reads_record {r : Record} (h : r.Packable) :
    Reads (Packed.compound? recordFields {} {}) (packRecord r) r := by
  obtain ⟨hkind, hcode, hcodeMax⟩ := ofCode_code h.storable.kind
  have htexts := h.texts
  simp only [Record.texts, List.forall_mem_cons] at htexts
  obtain ⟨hpackage, hcaller, hfrom, hto, hmutability, hnote, hlocation, hlog, -⟩ := htexts
  refine Packed.reads_map (by simp) ?_
  refine .cons (takes_int rfl (by decide) hcode hcodeMax) ?_
  refine .cons (takes_text rfl (by decide) hpackage) ?_
  refine .cons (takes_text rfl (by decide) hcaller) ?_
  refine .cons (takes_text rfl (by decide) hfrom) ?_
  refine .cons (takes_text rfl (by decide) hto) ?_
  refine .cons (takes_text rfl (by decide) hmutability) ?_
  refine .cons (takes_text rfl (by decide) hnote) ?_
  refine .cons (takes_text rfl (by decide) hlocation) ?_
  refine .cons (takes_text rfl (by decide) hlog) ?_
  refine .cons (takes_int rfl (by decide) h.line h.storable.line.2) ?_
  simp only [hkind]
  exact .nil r

/-- What is unpacked once the records are read. -/
def unpacking (records : List Record) : Unpacking := ⟨{ schema := schemaVersion, records := some records }, records, []⟩

/-- **An entry without failures is unpacked as it was packed.** -/
theorem unpack?_pack {records : List Record} {lines headers : Nat} (hsize : records.length < Packed.sizeLimit)
    (h : ∀ r ∈ records, r.Packable) (hlines : (lines : Int) ≤ Text.maxInt64) (hheaders : (headers : Int) ≤ Text.maxInt64) :
    let entry : Entry := { schema := schemaVersion, records := some records, lines, headers }
    Entry.unpack? entry.pack = some entry := by
  intro entry
  -- each list is read over none, and what was unpacked before it stays
  have hschema : Reads (entryFields[0].read? {}) (Packed.writeWord schemaVersion)
      { entry.schema := schemaVersion } := by
    intro rest
    simp [entryFields, Packed.reads_word (show schemaVersion < 0x10000 by decide) rest]
  have hrecords : Reads (entryFields[1].read? { entry.schema := schemaVersion })
      (Packed.writeList packRecord (some records)) (unpacking records) := by
    intro rest
    have hlist := Packed.reads_list hsize (fun r hr => reads_record (h r hr)) rest
    simp [entryFields, hlist, Unpacking.withRecords, Packed.places, unpacking]
  have hfailures : Reads (entryFields[2].read? (unpacking records)) (Packed.writeList packFailure none)
      (unpacking records) := fun rest => rfl
  have hread : Reads (Packed.compound? entryFields {} {}) entry.pack ⟨entry, records, []⟩ := by
    refine Packed.reads_map (by simp) ?_
    refine .cons (takes_of_reads rfl (by decide) hschema) ?_
    refine .cons (takes_of_reads rfl (by decide) hrecords) ?_
    refine .cons (takes_of_reads rfl (by decide) hfailures) ?_
    refine .cons (takes_int rfl (by decide) (Int.natCast_nonneg lines) hlines) ?_
    refine .cons (takes_int rfl (by decide) (Int.natCast_nonneg headers) hheaders) ?_
    exact .nil _
  have hentry := hread []
  rw [List.append_nil] at hentry
  rw [Entry.unpack?, hentry]
  rfl

end Cache

/-! ## visits -/

namespace Run

/-- The sizes of a visit fit into those of its entry. -/
structure Visit.Small (v : Visit) : Prop where
  content : (v.content.length : Int) ≤ Text.maxInt64
  packageId : v.job.packageId.length < Packed.sizeLimit
  path : v.job.path.length < Packed.sizeLimit
  records : v.scan.1.records.length < Packed.sizeLimit

instance (v : Visit) : Decidable v.Small :=
  decidable_of_iff ((v.content.length : Int) ≤ Text.maxInt64 ∧ v.job.packageId.length < Packed.sizeLimit ∧
      v.job.path.length < Packed.sizeLimit ∧ v.scan.1.records.length < Packed.sizeLimit)
    ⟨fun ⟨hcontent, hpackage, hpath, hrecords⟩ => ⟨hcontent, hpackage, hpath, hrecords⟩,
      fun h => ⟨h.content, h.packageId, h.path, h.records⟩⟩

theorem packable_of_small {v : Visit} (h : v.Small) {r : Record} (hr : r ∈ v.scan.1.records) : r.Packable := by
  obtain ⟨hstorable, hline⟩ := Scan.storable_of_mem_records h.content hr
  obtain ⟨hpackage, hlog, htexts⟩ := Scan.texts_of_mem_records hr
  refine ⟨hstorable, hline, ?_⟩
  have hwide {x : Text} (hx : Text.lf ∉ x ∧ x.length ≤ 3 * Lines.wide) : x.length < Packed.sizeLimit :=
    Nat.lt_of_le_of_lt hx.2 (by decide)
  simp only [Record.texts, List.forall_mem_cons] at htexts ⊢
  obtain ⟨hcaller, hfrom, hto, hmutability, hnote, hlocation, -⟩ := htexts
  exact ⟨hpackage ▸ h.packageId, hwide hcaller, hwide hfrom, hwide hto, hwide hmutability, hwide hnote,
    hwide hlocation, hlog ▸ h.path, by simp⟩

theorem scanLog_counts_le (profile : Profile) (job : Job) (content : Text) :
    (scanLog profile job content).1.lines ≤ content.length ∧ (scanLog profile job content).1.headers ≤ content.length := by
  obtain ⟨lines, -, hlength, -, hlines, hheaders, -⟩ :=
    Scan.exists_lines ⟨job.packageId, job.path, profile.kinds⟩ content
  have hcount : lines.countP (Scan.isHeader ⟨job.packageId, job.path, profile.kinds⟩) ≤ lines.length :=
    List.countP_le_length
  constructor
  · exact (hlines.trans_le hlength : (Scan.ofContent _ content).1.lines ≤ _)
  · exact (hheaders.trans_le (hcount.trans hlength) : (Scan.ofContent _ content).1.headers ≤ _)

/-- **The entry of a small visit is unpacked as it was packed.** -/
theorem unpack?_entry {v : Visit} (h : v.Small) : Cache.Entry.unpack? v.entry.pack = some v.entry := by
  obtain ⟨hlines, hheaders⟩ := scanLog_counts_le v.profile v.job v.content
  have hsize := h.content
  refine Cache.unpack?_pack h.records (fun r hr => packable_of_small h hr) ?_ ?_
  · exact (Int.ofNat_le.2 hlines).trans hsize
  · exact (Int.ofNat_le.2 hheaders).trans hsize

/-- **Visits that do not collide are faithful**, if they are small. -/
theorem faithful_of_small {visits : Visit → Prop}
    (hcollision : ∀ v v', visits v → visits v' → Digest.sha256 v.input = Digest.sha256 v'.input → v.input = v'.input)
    (hsmall : ∀ v, visits v → v.Small) : Faithful visits :=
  ⟨hcollision, fun v hv _ => unpack?_entry (hsmall v hv)⟩

end Run

end CastAudit
