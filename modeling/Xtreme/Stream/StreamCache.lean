import Xtreme.Stream.FileStream

/-! The cache of a buffered stream (`lib/toolbox/stream/stream_cache.c`). Only
the first `data_size` bytes of its buffer are ever read, so the model keeps
those; the two bounds the source asserts are fields. -/
namespace Xtreme.Stream

def streamCacheMaxSize : Nat := 1024

@[ext] structure StreamCache where
  data : List UInt8
  position : Nat
  position_le : position ≤ data.length
  size_le : data.length ≤ streamCacheMaxSize
  deriving Repr

instance : DecidableEq StreamCache := fun cache other =>
  decidable_of_iff (cache.data = other.data ∧ cache.position = other.position) StreamCache.ext_iff.symm

theorem no_data_le : 0 ≤ ([] : List UInt8).length := Nat.le_refl 0

/-- `stream_cache_alloc`; also what `stream_cache_drop` leaves. -/
def streamCacheAlloc : StreamCache := ⟨[], 0, no_data_le, Nat.zero_le _⟩

def streamCacheDrop (_cache : StreamCache) : StreamCache := streamCacheAlloc

def streamCacheSize (cache : StreamCache) : Nat := cache.data.length

def streamCachePos (cache : StreamCache) : Nat := cache.position

def streamCacheAtEnd (cache : StreamCache) : Bool := cache.data.length == cache.position

/-- `stream_cache_fill`: a fresh cache from the stream, and how much it holds. -/
def streamCacheFill (stream : FileStream) : Nat × StreamCache × FileStream :=
  let (bytes, next) := fileStreamRead stream streamCacheMaxSize
  (bytes.length, ⟨bytes.take streamCacheMaxSize, 0, Nat.zero_le _, List.length_take_le _ _⟩, next)

/-- `stream_cache_flush`: the cached bytes go to the stream, the cache is emptied. -/
def streamCacheFlush (cache : StreamCache) (stream : FileStream) :
    Bool × StreamCache × FileStream :=
  let (sizeWritten, next) := fileStreamWrite stream cache.data
  (sizeWritten == cache.data.length, streamCacheAlloc, next)

def streamCacheRead (cache : StreamCache) (size : Nat) : List UInt8 × StreamCache :=
  let sizeRead := min size (cache.data.length - cache.position)
  ((cache.data.drop cache.position).take sizeRead,
    ⟨cache.data, cache.position + sizeRead, by have := cache.position_le; omega, cache.size_le⟩)

/-- `stream_cache_write`: as many bytes as fit from the cursor to the end of the buffer. -/
def streamCacheWrite (cache : StreamCache) (bytes : List UInt8) : Nat × StreamCache :=
  let sizeWritten := min bytes.length (streamCacheMaxSize - cache.position)
  (sizeWritten, ⟨cache.data.take cache.position ++ bytes.take sizeWritten ++
        cache.data.drop (cache.position + sizeWritten),
      cache.position + sizeWritten,
      by have := cache.position_le; simp; omega,
      by have := cache.position_le; have := cache.size_le; simp; omega⟩)

/-- `stream_cache_seek`: how far the cursor really moved inside the cache. -/
def streamCacheSeek (cache : StreamCache) (offset : Int) : Int × StreamCache :=
  let actualOffset : Int :=
    if 0 < offset then min ((cache.data.length : Int) - cache.position) offset
    else if offset < 0 then max (-(cache.position : Int)) offset
    else 0
  (actualOffset, ⟨cache.data, (cache.position + actualOffset).toNat, by
      have := cache.position_le
      simp only [actualOffset]
      split
      · omega
      · split <;> omega, cache.size_le⟩)

end Xtreme.Stream
