import SqlScript.Files.Path
import SqlScript.Input.Stream

/-!
# Compression of script files

The compression of a file is told by its extension, in any letter case.  What is read of a
compressed file goes through a decoder.  `Decoders` holds one for each compression; they are
not part of this library, so a theorem about every `Decoders` is one about all of them.
-/

namespace SqlScript

inductive Compression where
  | none
  | gzip
  | bzip2
  | xz
  | zstd
  deriving DecidableEq, Repr, Inhabited

namespace Compression

def name : Compression → String
  | none => "none"
  | gzip => "gzip"
  | bzip2 => "bzip2"
  | xz => "xz"
  | zstd => "zstd"

/-- The compression that an extension in lower case stands for. -/
def ofExtension (extension : String) : Compression :=
  if ["gz", "gzip"].contains extension then gzip
  else if ["bz2", "bzip2"].contains extension then bzip2
  else if ["xz", "lzma"].contains extension then xz
  else if ["zst", "zstd"].contains extension then zstd
  else none

/-- The compression of a file.  No character outside ASCII has a lower case form that
occurs in an extension, so lowering the ASCII letters is enough. -/
def ofPath (path : String) : Compression :=
  match (Path.fileName? path).bind Path.extension? with
  | some extension => ofExtension (String.ofList (extension.map Char.toLower))
  | .none => none

end Compression

/-- The decoders of compressed files.  A decoder is given what is read of a file, the failures
of reading it included, and hands its text out, with failures of its own in between.  Only that
of `zstd` may refuse before anything is read. -/
structure Decoders where
  gzip : Stream → Stream
  bzip2 : Stream → Stream
  xz : Stream → Stream
  zstd : Stream → Except IoError Stream

namespace Decoders

/-- Reads through the decoder of a compression. -/
def decode (d : Decoders) : Compression → Stream → Except IoError Stream
  | .none, stream => .ok stream
  | .gzip, stream => .ok (d.gzip stream)
  | .bzip2, stream => .ok (d.bzip2 stream)
  | .xz, stream => .ok (d.xz stream)
  | .zstd, stream => d.zstd stream

/-- What a program says that has no decoders. -/
def missing : IoError :=
  .system "no decoder for compressed files"

/-- The decoders of a program that has none. -/
def absent : Decoders where
  gzip _ := [.fault missing]
  bzip2 _ := [.fault missing]
  xz _ := [.fault missing]
  zstd _ := .error missing

end Decoders

end SqlScript
