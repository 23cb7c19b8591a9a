/-
FleetOrders.Snapshot.File — snapshots kept in files.
-/
import FleetOrders.Fault
import FleetOrders.FileTree
import FleetOrders.Snapshot.Bytes

namespace FleetOrders.Snapshot

/-- A refusal of the operating system while a file is used. -/
def fileFault (attempt path : String) (e : OsError) : Fault :=
  .io ("failed to " ++ attempt ++ " file '" ++ path ++ "': " ++ e.message)

/-- The tree with the snapshot in the file at the path. -/
def save (s : Snapshot) (tree : FileTree) (path : String) : Except Fault FileTree :=
  match tree.openEmpty path with
  | .error e => .error (fileFault "create" path e)
  | .ok (place, tree) =>
    match tree.writeAt place s.bytes with
    | .error e => .error (fileFault "write to" path e)
    | .ok tree => .ok tree

/-- The snapshot in the file at the path. Bytes that are no snapshot are a
fault in the setting of that path. -/
def load (tree : FileTree) (path : String) : Except Fault Snapshot :=
  match tree.locate path with
  | .error e => .error (fileFault "open" path e)
  | .ok place =>
    match tree.readAt place with
    | .error e => .error (fileFault "read" path e)
    | .ok content =>
      match ofBytes? content with
      | some s => .ok s
      | none => .error ((Fault.serialization "the bytes are no snapshot").inSource path)

end FleetOrders.Snapshot
