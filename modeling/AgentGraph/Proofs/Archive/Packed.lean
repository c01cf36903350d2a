import AgentGraph.Archive.Basic
import AgentGraph.Proofs.Decode.Record

/-!
Documents packed by whatever library writes archives. All that matters about it is that a
name that is there already is rejected, and that any other document comes to stand at the end.
-/

namespace AgentGraph

/-- A library for archives: `add` starts a file under a document's name and writes its
content, `entries` is what an archive is read back as. -/
structure Archiver (σ : Type) where
  new : σ
  add : σ → Document → Except String σ
  entries : σ → List Document

namespace Archiver

variable {σ : Type}

def names (archiver : Archiver σ) (archive : σ) : List String :=
  (archiver.entries archive).map Document.name

/-- Whether the library rejects exactly the names that are there already. -/
structure IsLawful (archiver : Archiver σ) : Prop where
  entries_new : archiver.entries archiver.new = []
  rejects : ∀ archive document name, archiver.add archive document = .error name ↔
    name = document.name ∧ document.name ∈ archiver.names archive
  appends : ∀ archive document longer, archiver.add archive document = .ok longer →
    archiver.entries longer = archiver.entries archive ++ [document]

def pack (archiver : Archiver σ) (documents : List Document) : Except String σ :=
  documents.foldlM archiver.add archiver.new

variable {archiver : Archiver σ} {documents : List Document} {archive longer : σ}

section Lawful

variable (lawful : archiver.IsLawful)

include lawful

theorem IsLawful.names_of_add {document : Document}
    (added : archiver.add archive document = .ok longer) :
    archiver.names longer = archiver.names archive ++ [document.name] := by
  rw [names, lawful.appends _ _ _ added, List.map_append]
  rfl

theorem IsLawful.entries_of_foldlM
    (packed : documents.foldlM archiver.add archive = .ok longer) :
    archiver.entries longer = archiver.entries archive ++ documents := by
  induction documents generalizing archive with
  | nil =>
      cases packed
      rw [List.append_nil]
  | cons document documents ih =>
      obtain ⟨middle, added, packed⟩ := Decoded.bind_eq_ok.mp packed
      rw [ih packed, lawful.appends _ _ _ added, List.append_assoc]
      rfl

theorem IsLawful.not_mem_of_foldlM
    (packed : documents.foldlM archiver.add archive = .ok longer) :
    ∀ document ∈ documents, document.name ∉ archiver.names archive := by
  induction documents generalizing archive with
  | nil => exact fun _ inside => absurd inside List.not_mem_nil
  | cons document documents ih =>
      obtain ⟨middle, added, packed⟩ := Decoded.bind_eq_ok.mp packed
      rintro other (_ | ⟨_, later⟩) known
      · have rejected := (lawful.rejects _ _ _).mpr ⟨rfl, known⟩
        rw [added] at rejected
        contradiction
      · refine ih packed other later ?_
        rw [lawful.names_of_add added]
        exact List.mem_append_left _ known

theorem IsLawful.mem_of_foldlM_error (distinct : (documents.map Document.name).Nodup)
    {name : String} (failed : documents.foldlM archiver.add archive = .error name) :
    name ∈ archiver.names archive ∧ name ∈ documents.map Document.name := by
  induction documents generalizing archive with
  | nil => contradiction
  | cons document documents ih =>
      obtain ⟨new, restDistinct⟩ := List.nodup_cons.mp distinct
      rw [List.foldlM_cons] at failed
      cases added : archiver.add archive document with
      | error rejected =>
          rw [added] at failed
          cases failed
          obtain ⟨rfl, known⟩ := (lawful.rejects _ _ _).mp added
          exact ⟨known, List.mem_cons_self⟩
      | ok middle =>
          rw [added] at failed
          obtain ⟨known, later⟩ := ih restDistinct failed
          rw [lawful.names_of_add added, List.mem_append, List.mem_singleton] at known
          rcases known with known | rfl
          · exact ⟨known, List.mem_cons_of_mem _ later⟩
          · exact absurd later new

theorem IsLawful.entries_of_pack (packed : archiver.pack documents = .ok archive) :
    archiver.entries archive = documents := by
  rw [lawful.entries_of_foldlM packed, lawful.entries_new, List.nil_append]

/-- Where the other documents have names of their own, nothing is rejected but the name of
the first one. -/
theorem IsLawful.pack_cons_eq_error_iff (first : Document)
    (distinct : (documents.map Document.name).Nodup) (name : String) :
    archiver.pack (first :: documents) = .error name ↔
      name = first.name ∧ first.name ∈ documents.map Document.name := by
  have nothing : archiver.names archiver.new = [] := by
    rw [names, lawful.entries_new]
    rfl
  rw [pack, List.foldlM_cons]
  cases added : archiver.add archiver.new first with
  | error rejected =>
      obtain ⟨_, known⟩ := (lawful.rejects _ _ _).mp added
      rw [nothing] at known
      contradiction
  | ok started =>
      have names := lawful.names_of_add added
      rw [nothing, List.nil_append] at names
      change documents.foldlM archiver.add started = .error name ↔ _
      constructor
      · intro failed
        obtain ⟨known, later⟩ := lawful.mem_of_foldlM_error distinct failed
        rw [names, List.mem_singleton] at known
        exact ⟨known, known ▸ later⟩
      · rintro ⟨rfl, repeated⟩
        cases packed : documents.foldlM archiver.add started with
        | error rejected =>
            have known := (lawful.mem_of_foldlM_error distinct packed).1
            rw [names, List.mem_singleton] at known
            rw [known]
        | ok longer =>
            obtain ⟨document, inside, same⟩ := List.mem_map.mp repeated
            refine absurd ?_ (lawful.not_mem_of_foldlM packed document inside)
            rw [names, same]
            exact List.mem_singleton_self _

end Lawful

end Archiver

namespace Archive

def archiver : Archiver Archive := ⟨Archive.empty, add, entries⟩

theorem isLawful_archiver : archiver.IsLawful where
  entries_new := rfl
  rejects archive document name := by
    simp only [archiver, add, Archiver.names]
    split
    case isTrue present => simp [present, eq_comm]
    case isFalse absent => simp [absent]
  appends archive document longer added := by
    simp only [archiver, add] at added
    split at added
    · contradiction
    · cases added
      rfl

end Archive

end AgentGraph
