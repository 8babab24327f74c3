import AngularClient.Diff.Unified
import AngularClient.Files.Store
import AngularClient.Text.Basic

/-! Output files.  The generated text of a file ends where a marker first stands; from there on it
belongs to its user, whose block outlives every generation. -/

namespace AngularClient

namespace Output

def marker : String := "// === LBNG:CUSTOM ==="

def cut? (text : String) : Option (String × String) :=
  (Text.cut? marker.toList text.toList).map fun (before, block) =>
    (String.ofList before, String.ofList block)

def parts? (store : FileStore) (path : String) : Option (String × String) := do
  cut? (← store.readText? path)

def merged (store : FileStore) (path generated : String) : String :=
  match parts? store path with
  | some (_, block) => generated ++ block
  | none => generated

def write (store : FileStore) (path generated : String) : FileStore × Bool :=
  store.writeText path (merged store path generated)

inductive Comparison
  | unreadable
  | upToDate
  | outdated (diff : String)
  deriving DecidableEq

def compare (store : FileStore) (path generated : String) : Comparison :=
  match store.readText? path with
  | none => .unreadable
  | some current =>
    let expected := merged store path generated
    if current = expected then .upToDate else .outdated (Diff.unified current expected path)

end Output

end AngularClient
