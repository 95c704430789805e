import Xtreme.Stream.StreamCache

/-! The buffered file stream (`lib/toolbox/stream/buffered_file_stream.c`): a
plain file stream behind one cache that is either read ahead of the file's
pointer or, while `sync_pending`, waiting to be written at it. -/
namespace Xtreme.Stream

@[ext] structure BufferedFileStream where
  fileStream : FileStream
  cache : StreamCache
  syncPending : Bool
  deriving DecidableEq, Repr

/-- `buffered_file_stream_alloc` and `_open`, over an opened file. -/
def bufferedFileStreamOpen (file : FileStream) : BufferedFileStream :=
  ⟨file, streamCacheAlloc, false⟩

/-- `buffered_file_stream_flush`: write the cache out and move the file's
pointer back to the cursor. -/
def bufferedFileStreamFlush (stream : BufferedFileStream) : Bool × BufferedFileStream :=
  let offset : Int := streamCacheSize stream.cache - streamCachePos stream.cache
  let (flushed, cache, file) := streamCacheFlush stream.cache stream.fileStream
  if !flushed then (false, ⟨file, cache, false⟩)
  else if 0 < offset then
    let (sought, file) := fileStreamSeek file (-offset) .fromCurrent
    (sought, ⟨file, cache, false⟩)
  else (true, ⟨file, cache, false⟩)

/-- `buffered_file_stream_unread`: drop the read cache and move the file's
pointer back to the cursor. -/
def bufferedFileStreamUnread (stream : BufferedFileStream) : Bool × BufferedFileStream :=
  let cacheSize := streamCacheSize stream.cache
  if 0 < cacheSize then
    let cachePos := streamCachePos stream.cache
    if cachePos < cacheSize then
      let offset : Int := cacheSize - cachePos
      let (sought, file) := fileStreamSeek stream.fileStream (-offset) .fromCurrent
      (sought, { stream with fileStream := file, cache := streamCacheDrop stream.cache })
    else (true, { stream with cache := streamCacheDrop stream.cache })
  else (true, stream)

/-- `buffered_file_stream_sync`. -/
def bufferedFileStreamSync (stream : BufferedFileStream) : Bool × BufferedFileStream :=
  if stream.syncPending then bufferedFileStreamFlush stream else (true, stream)

/-- The choice `close` and `delete_and_insert` make before they go to the file. -/
def bufferedFileStreamSettle (stream : BufferedFileStream) : Bool × BufferedFileStream :=
  if stream.syncPending then bufferedFileStreamFlush stream else bufferedFileStreamUnread stream

def bufferedFileStreamEof (stream : BufferedFileStream) : Bool :=
  let fileStreamEof := fileStreamEof stream.fileStream
  let cacheAtEnd := streamCacheAtEnd stream.cache
  if !stream.syncPending then fileStreamEof && cacheAtEnd
  else
    let remainingSize := fileStreamSize stream.fileStream - fileStreamTell stream.fileStream
    -- the comparison binds tighter than the conditional the source wraps in it
    decide ((if remainingSize ≠ 0 then cacheAtEnd else fileStreamEof).toNat ≤ streamCacheSize stream.cache)

/-- `buffered_file_stream_seek`: a relative seek first moves inside the cache;
what is left over goes to the file. -/
def bufferedFileStreamSeek (stream : BufferedFileStream) (offset : Int)
    (offsetType : StreamOffset) : Bool × BufferedFileStream :=
  let (newOffset, cache) :=
    match offsetType with
    | .fromCurrent =>
      let (moved, cache) := streamCacheSeek stream.cache offset
      let newOffset := int32 (offset - moved)
      (if newOffset < 0 then int32 (newOffset - streamCacheSize cache) else newOffset, cache)
    | _ => (offset, stream.cache)
  let stream := { stream with cache }
  if newOffset ≠ 0 ∨ offsetType ≠ .fromCurrent then
    let (success, stream) :=
      if stream.syncPending then bufferedFileStreamSync stream
      else (true, { stream with cache := streamCacheDrop stream.cache })
    if success then
      let (sought, file) := fileStreamSeek stream.fileStream newOffset offsetType
      (sought, { stream with fileStream := file })
    else (false, stream)
  else (true, stream)

def bufferedFileStreamTell (stream : BufferedFileStream) : Nat :=
  let pos := fileStreamTell stream.fileStream + streamCachePos stream.cache
  if !stream.syncPending then pos - streamCacheSize stream.cache else pos

def bufferedFileStreamSize (stream : BufferedFileStream) : Nat :=
  let size := fileStreamSize stream.fileStream
  if stream.syncPending then
    let remainingSize := size - fileStreamTell stream.fileStream
    let cacheSize := streamCacheSize stream.cache
    if remainingSize < cacheSize then size + (cacheSize - remainingSize) else size
  else size

/-- The loop of `buffered_file_stream_write`; its answer is what could not be written. -/
def bufferedFileStreamWriteLoop (stream : BufferedFileStream) (bytes : List UInt8) :
    Nat × BufferedFileStream :=
  if bytes.length = 0 then (0, stream)
  else
    let written := streamCacheWrite stream.cache bytes
    let rest := bytes.drop written.1
    if rest.length = 0 then (0, { stream with cache := written.2, syncPending := true })
    else
      let flushed := streamCacheFlush written.2 stream.fileStream
      let next : BufferedFileStream := ⟨flushed.2.2, flushed.2.1, false⟩
      if !flushed.1 then (rest.length, next) else bufferedFileStreamWriteLoop next rest
termination_by 2 * bytes.length + (if stream.cache.position < streamCacheMaxSize then 0 else 1)
decreasing_by
  have fresh : next.cache.position < streamCacheMaxSize := by
    simp [next, flushed, streamCacheFlush, streamCacheAlloc, streamCacheMaxSize]
  have moved : written.1 = min bytes.length (streamCacheMaxSize - stream.cache.position) := rfl
  have left : rest.length = bytes.length - written.1 := List.length_drop
  rw [if_pos fresh, left]
  split <;> omega

def bufferedFileStreamWrite (stream : BufferedFileStream) (bytes : List UInt8) :
    Nat × BufferedFileStream :=
  let (ready, stream) := if !stream.syncPending then bufferedFileStreamUnread stream else (true, stream)
  if !ready then (0, stream)
  else
    let (left, stream) := bufferedFileStreamWriteLoop stream bytes
    (bytes.length - left, stream)

/-- The loop of `buffered_file_stream_read`: what the cache has, then a flush
or a refill, until enough is read or the file ends. -/
def bufferedFileStreamReadLoop (stream : BufferedFileStream) (needToRead : Nat) :
    List UInt8 × BufferedFileStream :=
  if needToRead = 0 then ([], stream)
  else
    let taken := streamCacheRead stream.cache needToRead
    let needToRead' := needToRead - taken.1.length
    let stream' := { stream with cache := taken.2 }
    if needToRead' = 0 then (taken.1, stream')
    else
      -- what the source writes out here is `sync`
      let settled := bufferedFileStreamSync stream'
      if !settled.1 then (taken.1, settled.2)
      else
        let filled := streamCacheFill settled.2.fileStream
        let next := { settled.2 with fileStream := filled.2.2, cache := filled.2.1 }
        if filled.1 = 0 then (taken.1, next)
        else
          let more := bufferedFileStreamReadLoop next needToRead'
          (taken.1 ++ more.1, more.2)
termination_by 2 * needToRead + (if stream.cache.position < stream.cache.data.length then 0 else 1)
decreasing_by
  have room : next.cache.position < next.cache.data.length := by
    have size : next.cache.data.length = min streamCacheMaxSize filled.1 := by
      simp only [next, filled, streamCacheFill, List.length_take]
    have start : next.cache.position = 0 := rfl
    have : streamCacheMaxSize = 1024 := rfl
    omega
  have taken_length : taken.1.length = min needToRead (stream.cache.data.length - stream.cache.position) := by
    simp [taken, streamCacheRead]
  rw [if_pos room]
  change 2 * (needToRead - taken.1.length) + 0 < _
  split <;> omega

def bufferedFileStreamRead (stream : BufferedFileStream) (size : Nat) :
    List UInt8 × BufferedFileStream :=
  bufferedFileStreamReadLoop stream size

def bufferedFileStreamDeleteAndInsert (stream : BufferedFileStream) (deleteSize : Nat)
    (writeCallback : Option (FileStream → Bool × FileStream)) : Bool × BufferedFileStream :=
  let (settled, stream) := bufferedFileStreamSettle stream
  if !settled then (false, stream)
  else
    let (done, file) := fileStreamDeleteAndInsert stream.fileStream deleteSize writeCallback
    (done, { stream with fileStream := file })

end Xtreme.Stream
