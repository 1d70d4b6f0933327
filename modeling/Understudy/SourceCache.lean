import Understudy.Failure

/-!
The cache of file contents from which processed members are taken byte for byte.

A file is read once and then held for every member that asks for it. A read that fails leaves
the cache as it was; a stretch that cannot be taken out still leaves its member registered.
-/

namespace Understudy

/-- The contents of every path, or why it cannot be read. -/
abbrev Disk := Path → Except FileFault (List UInt8)

/-- One member's stretch of bytes in one file. -/
structure CacheKey where
  path : Path
  name : String
  typeText : String
  offset : Nat
  length : Nat
deriving DecidableEq, Repr

namespace CacheKey

def stop (key : CacheKey) : Nat :=
  key.offset + key.length

/-- Keys are equal when their fields are, with paths compared by their components. -/
def same (left right : CacheKey) : Bool :=
  left.path.same right.path && left.name == right.name && left.typeText == right.typeText &&
    left.offset == right.offset && left.length == right.length

end CacheKey

structure SourceCache where
  files : List (Path × List UInt8) := []
  members : List (CacheKey × List UInt8) := []
  /-- The number of reads that succeeded since the cache was made; clearing keeps it. -/
  decodes : Nat := 0
deriving Repr, Inhabited

namespace SourceCache

def empty : SourceCache := {}

def file? (cache : SourceCache) (path : Path) : Option (List UInt8) :=
  (cache.files.find? fun entry => entry.1.same path).map Prod.snd

def member? (cache : SourceCache) (key : CacheKey) : Option (List UInt8) :=
  (cache.members.find? fun entry => entry.1.same key).map Prod.snd

def size (cache : SourceCache) : Nat :=
  cache.members.length

def isEmpty (cache : SourceCache) : Bool :=
  cache.members.isEmpty

def clear (cache : SourceCache) : SourceCache :=
  { cache with files := [], members := [] }

/-- The contents of a file, read from the disk unless they are held. -/
def fileBytes (disk : Disk) (path : Path) (cache : SourceCache) :
    Except Failure (List UInt8) × SourceCache :=
  match cache.file? path with
  | some bytes => (.ok bytes, cache)
  | none =>
      match disk path with
      | .ok bytes =>
          (.ok bytes,
            { cache with files := (path, bytes) :: cache.files, decodes := cache.decodes + 1 })
      | .error fault => (.error (.file fault), cache)

def buffer (disk : Disk) (key : CacheKey) (cache : SourceCache) :
    Except Failure (List UInt8) × SourceCache :=
  match cache.member? key with
  | some bytes => (.ok bytes, cache)
  | none =>
      match cache.fileBytes disk key.path with
      | (.ok bytes, cache) => (.ok bytes, { cache with members := (key, bytes) :: cache.members })
      | (.error failure, cache) => (.error failure, cache)

/-- The text of a member's stretch of a file's bytes. -/
def stretch (key : CacheKey) (bytes : List UInt8) : Except Failure String :=
  if key.stop ≤ bytes.length then
    match Text.Utf8.decode ((bytes.drop key.offset).take key.length) with
    | .ok text => .ok (String.ofList text)
    | .error fault => .error (.extraction (.notUtf8 key.name key.path fault))
  else
    .error (.extraction (.outside key.name key.path key.offset key.stop bytes.length))

/-- The text of a member, byte for byte as its file has it. -/
def extract (disk : Disk) (key : CacheKey) (cache : SourceCache) :
    Except Failure String × SourceCache :=
  match cache.buffer disk key with
  | (.ok bytes, cache) => (stretch key bytes, cache)
  | (.error failure, cache) => (.error failure, cache)

end SourceCache

end Understudy
