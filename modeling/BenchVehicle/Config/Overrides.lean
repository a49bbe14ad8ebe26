import BenchVehicle.Property.Document
import BenchVehicle.Text.Blank

/-!
# Overriding values

Values that override those of the start, from the JSON files of a directory. The files are read in
the order of their names; each holds a list of values. A file that does not is skipped.
-/

namespace BenchVehicle

/-- A regular file of a directory. -/
structure OverrideFile where
  /-- Its name in the directory. -/
  name : String
  /-- Its bytes. -/
  content : ByteArray

namespace OverrideFile

/-- What follows the last point of a name, unless nothing but that point comes before it. -/
def extension? (name : String) : Option String :=
  let cs := name.toList.reverse
  match cs.dropWhile fun c => c ≠ '.' with
  | _ :: _ :: _ => some (String.ofList (cs.takeWhile fun c => c ≠ '.').reverse)
  | _ => none

/-- Whether a file is read: its name ends in `.json`, in either case. -/
def isRead (file : OverrideFile) : Bool := (extension? file.name).any fun e => lowerAscii e = "json"

/-- The values of a file, or none if it holds no list of values. -/
def values (file : OverrideFile) : List PropertyValue :=
  ((String.fromUTF8? file.content).bind PropertyValue.parseJsonList?).getD []

/-- The values of the files of a directory. -/
def valuesOfAll (files : List OverrideFile) : List PropertyValue :=
  ((files.filter isRead).mergeSort fun f g => f.name ≤ g.name).flatMap values

end OverrideFile

end BenchVehicle
