import AgentGraph.Program.Basic

/-!
Archives of documents, each name once, and the checksum of a document.
-/

namespace AgentGraph

structure Archive where
  entries : List Document
  nodup : (entries.map Document.name).Nodup

namespace Archive

protected def empty : Archive := ⟨[], List.nodup_nil⟩

/-- The archive with one more document at the end, or the name that is there already. -/
def add (archive : Archive) (document : Document) : Except String Archive :=
  if present : document.name ∈ archive.entries.map Document.name then
    .error document.name
  else .ok ⟨archive.entries ++ [document], by
    rw [List.map_append, List.nodup_append]
    refine ⟨archive.nodup, by simp, ?_⟩
    intro name held other added same
    simp only [List.map_cons, List.map_nil, List.mem_singleton] at added
    exact present (added ▸ same ▸ held)⟩

def ofDocuments (documents : List Document) : Except String Archive :=
  documents.foldlM add Archive.empty

def contentBytes (document : Document) : List UInt8 := document.content.toUTF8.toList

/-- One bit of the checksum's division, by the reversed polynomial. -/
def checksumBit (state : UInt32) : UInt32 :=
  if state &&& 1 = 1 then (state >>> 1) ^^^ 0xEDB88320 else state >>> 1

def checksumByte (state : UInt32) (byte : UInt8) : UInt32 :=
  Nat.repeat checksumBit 8 (state ^^^ byte.toUInt32)

/-- The cyclic redundancy check of 32 bits. -/
def checksum (bytes : List UInt8) : UInt32 :=
  bytes.foldl checksumByte 0xFFFFFFFF ^^^ 0xFFFFFFFF

end Archive

def Program.archive (program : Program) : Except String Archive :=
  Archive.ofDocuments (program.main :: program.auxiliary)

end AgentGraph
