import DeepKernel.Lib.Table

/-!
# Output file streams

The part of `std::ofstream` that a program can observe when the operating system accepts every
write: a stream is closed, or open on a file at a put position; `open` on a stream that is already
open fails and sets the failbit while the stream stays open; `write` does nothing while the failbit
is set; a successful `open` truncates the file and clears the failbit; `close` keeps the failbit.

The contents of a file are those that its readers find once the stream is closed: the library keeps
bytes in its buffer before that, so an open stream says nothing about the file on the disk.
-/

set_option autoImplicit false

namespace DeepKernel.Lib

/-- Byte strings: the contents of a `std::string` or of a file. -/
abbrev ByteString := List UInt8

/-- The files by path. -/
abbrev FileSystem := Table ByteString ByteString

/-- Write bytes at a position, with a gap of zeros if the file is shorter. -/
def overwrite (content : ByteString) (pos : Nat) (bytes : ByteString) : ByteString :=
  content.take pos ++ List.replicate (pos - content.length) 0 ++ bytes ++
    content.drop (pos + bytes.length)

theorem overwrite_length (content bytes : ByteString) :
    overwrite content content.length bytes = content ++ bytes := by
  simp [overwrite]

/-- State of an output file stream. -/
structure OfStream where
  file : Option ByteString := none
  pos : Nat := 0
  failbit : Bool := false
  deriving DecidableEq

namespace OfStream

/-- `is_open()`. -/
def isOpen (s : OfStream) : Bool := s.file.isSome

/-- `open(path, binary | trunc)`. `canOpen` says whether the operating system opens the file. -/
def openFile (s : OfStream) (fs : FileSystem) (path : ByteString) (canOpen : Bool) :
    FileSystem × OfStream :=
  if s.isOpen then (fs, { s with failbit := true })
  else if canOpen then (fs.set path [], { file := some path, pos := 0, failbit := false })
  else (fs, { s with failbit := true })

/-- `write(bytes)`. -/
def write (s : OfStream) (fs : FileSystem) (bytes : ByteString) : FileSystem × OfStream :=
  match s.failbit, s.file with
  | false, some path =>
      (fs.set path (overwrite ((fs.find? path).getD []) s.pos bytes),
        { s with pos := s.pos + bytes.length })
  | _, _ => (fs, { s with failbit := true })

/-- `close()`. -/
def close (s : OfStream) : OfStream := { s with file := none, pos := 0 }

@[simp] theorem isOpen_close (s : OfStream) : s.close.isOpen = false := rfl

theorem openFile_of_isOpen {s : OfStream} (h : s.isOpen = true) (fs : FileSystem)
    (path : ByteString) (canOpen : Bool) :
    s.openFile fs path canOpen = (fs, { s with failbit := true }) := by
  simp [openFile, h]

theorem openFile_of_closed {s : OfStream} (h : s.isOpen = false) (fs : FileSystem)
    (path : ByteString) :
    s.openFile fs path true =
      (fs.set path [], { file := some path, pos := 0, failbit := false }) := by
  simp [openFile, h]

theorem write_of_failbit {s : OfStream} (h : s.failbit = true) (fs : FileSystem)
    (bytes : ByteString) : s.write fs bytes = (fs, s) := by
  obtain ⟨file, pos, failbit⟩ := s
  subst h
  rfl

/-- Writing at the end of the file appends. -/
theorem write_of_good {s : OfStream} {fs : FileSystem} {path content : ByteString}
    (hfail : s.failbit = false) (hfile : s.file = some path) (hpos : s.pos = content.length)
    (hcontent : fs.find? path = some content) (bytes : ByteString) :
    s.write fs bytes =
      (fs.set path (content ++ bytes), { s with pos := (content ++ bytes).length }) := by
  obtain ⟨file, pos, failbit⟩ := s
  subst hfail hfile hpos
  simp [write, hcontent, overwrite_length]

/-- Writing changes no file but the one the stream has open. -/
theorem write_files_of_ne (s : OfStream) (fs : FileSystem) (bytes : ByteString) {q : ByteString}
    (h : s.file ≠ some q) : (s.write fs bytes).1.find? q = fs.find? q := by
  obtain ⟨file, pos, failbit⟩ := s
  cases failbit with
  | true => rfl
  | false =>
      cases file with
      | none => rfl
      | some path =>
          have hne : q ≠ path := fun hq => h (by rw [hq])
          exact Table.find?_set_of_ne fs _ hne

@[simp] theorem file_write (s : OfStream) (fs : FileSystem) (bytes : ByteString) :
    (s.write fs bytes).2.file = s.file := by
  obtain ⟨file, pos, failbit⟩ := s
  cases failbit <;> cases file <;> rfl

end OfStream

end DeepKernel.Lib
