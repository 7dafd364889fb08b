import RobotCell.Files

/-!
# RobotCell.FileSystem

Access to files from a program that reads a few and writes a few.

A monad with `FileSystem` reads and writes; a state of `Files` is the one to reason about.
-/

namespace RobotCell

/-- A monad that reads and writes files. -/
class FileSystem (m : Type → Type) where
  /-- The file at a path, if there is one. -/
  file? : String → m (Option FileNode)
  /-- The file at a path from the working directory, or else from the nearest directory above it
  that has one. -/
  fileAbove? : String → m (Option FileNode)
  /-- Writes a text file, and says whether that was possible. -/
  write : String → String → m (Except Failure Unit)

/-- A tree of files. -/
instance : FileSystem (StateM Files) where
  file? path := fun files => (files.file? path, files)
  fileAbove? path := fun files => (files.fileAbove? path, files)
  write path text := fun files =>
    match files.write path text with
    | .ok after => (.ok (), after)
    | .error e => (.error e, files)

/-- The same files for a run that may fail. -/
instance {ε : Type} {m : Type → Type} [Monad m] [FileSystem m] : FileSystem (ExceptT ε m) where
  file? path := ExceptT.lift (FileSystem.file? path)
  fileAbove? path := ExceptT.lift (FileSystem.fileAbove? path)
  write path text := ExceptT.lift (FileSystem.write path text)

end RobotCell
