import AgentGraph.Archive.Basic

/-!
The bytes of an archive in the ZIP format. Contents stand in stored blocks of a
deflate stream, and every entry has the first moment of 1980 as its date.
-/

namespace AgentGraph.Archive

def littleEndian : (count value : Nat) → List UInt8
  | 0, _ => []
  | count + 1, value => UInt8.ofNat value :: littleEndian count (value / 256)

/-- The bytes that follow in a deflate stream of stored blocks; `fuel` bounds the
number of blocks. A block holds at most 65535 bytes, and the last one is marked. -/
def storedBlocks : (fuel : Nat) → List UInt8 → List UInt8
  | 0, _ => []
  | fuel + 1, bytes =>
      let held := bytes.take 65535
      let rest := bytes.drop 65535
      let final := if rest.isEmpty then 1 else 0
      final :: littleEndian 2 held.length ++ littleEndian 2 (65535 - held.length) ++ held ++
        (if rest.isEmpty then [] else storedBlocks fuel rest)

def deflated (bytes : List UInt8) : List UInt8 := storedBlocks (bytes.length + 1) bytes

/-- What both headers of an entry say: version, flag for names in UTF-8, method, time
and date, checksum, sizes, and lengths of the name and of the extra field. -/
def entryFields (document : Document) : List UInt8 :=
  let bytes := contentBytes document
  littleEndian 2 20 ++ littleEndian 2 0x0800 ++ littleEndian 2 8 ++ littleEndian 2 0 ++
    littleEndian 2 0x0021 ++ littleEndian 4 (checksum bytes).toNat ++
    littleEndian 4 (deflated bytes).length ++ littleEndian 4 bytes.length ++
    littleEndian 2 document.name.utf8ByteSize ++ littleEndian 2 0

def nameBytes (document : Document) : List UInt8 := document.name.toUTF8.toList

def localEntry (document : Document) : List UInt8 :=
  littleEndian 4 0x04034B50 ++ entryFields document ++ nameBytes document ++
    deflated (contentBytes document)

def directoryEntry (document : Document) (offset : Nat) : List UInt8 :=
  littleEndian 4 0x02014B50 ++ littleEndian 2 0x0314 ++ entryFields document ++
    littleEndian 2 0 ++ littleEndian 2 0 ++ littleEndian 2 0 ++
    littleEndian 4 (0o100644 * 65536) ++ littleEndian 4 offset ++ nameBytes document

def directory : (offset : Nat) → List Document → List UInt8
  | _, [] => []
  | offset, document :: rest =>
      directoryEntry document offset ++
        directory (offset + (localEntry document).length) rest

/-- The local entries, the directory, and the record that closes it. -/
def bytes (archive : Archive) : List UInt8 :=
  let entries := archive.entries.flatMap localEntry
  let listing := directory 0 archive.entries
  let count := archive.entries.length
  entries ++ listing ++ littleEndian 4 0x06054B50 ++ littleEndian 2 0 ++
    littleEndian 2 0 ++ littleEndian 2 count ++ littleEndian 2 count ++
    littleEndian 4 listing.length ++ littleEndian 4 entries.length ++ littleEndian 2 0

end AgentGraph.Archive
