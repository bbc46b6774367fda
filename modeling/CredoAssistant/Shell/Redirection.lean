import CredoAssistant.Shell.Expansion
import CredoAssistant.Shell.Mode

/-!
Redirections: their words are expanded first, then the streams are opened in turn. Afterwards the
streams that were redirected lead again to where they led before.
-/
namespace CredoAssistant.Shell

/-- What the shell says about a file that cannot be opened for reading, or created. -/
def Fault.openMessage (creates : Bool) : Fault → String
  | .missing => if creates then "Directory nonexistent" else "No such file"
  | .notDirectory => if creates then "Directory nonexistent" else "No such file"
  | fault => fault.reason

/-- The streams after redirections, as far as their words show it. -/
def redirectedStreams (streams : Entries Nat Nat) (rs : List Redirect) : Entries Nat Nat :=
  rs.foldl
    (fun streams r =>
      match r with
      | .file stream _ _ => Entries.erase stream streams
      | .document stream _ => Entries.erase stream streams
      | .duplicate stream [.char c false] =>
        match Entries.get? (c.toNat - '0'.toNat) streams with
        | some id =>
          if c.isDigit then Entries.set stream id streams else Entries.erase stream streams
        | none => Entries.erase stream streams
      | .duplicate .. => streams)
    streams

namespace Run

/-- Expands the words of redirections. -/
def targets (output : Command → Run String) (rs : List Redirect) : Run (List Target) :=
  rs.mapM fun
    | .file stream opening name => do return .file stream opening (← expandText output name)
    | .document stream number => pure (.document stream number)
    | .duplicate stream source => do
      match (← expandText output source).toList with
      | ['-'] => pure (.close stream)
      | [c] =>
        if c.isDigit then pure (.copy stream (c.toNat - '0'.toNat))
        else badStream
      | _ => badStream
where
  badStream : Run Target := do
    modify fun m => { m with line := m.reached }
    fail "Syntax error: Bad fd number"

/-- The handle for a device, if the name is one of a device. -/
def deviceHandle? (name : String) : Run (Option (Except Fault Handle)) := do
  if isNullDevice name then pure (some (.ok ⟨.null, 0, false, true, true⟩))
  else if isEndlessDevice name then pure (some (.ok ⟨.zeros, 0, false, true, true⟩))
  else if name = "/dev/full" then pure (some (.ok ⟨.full, 0, false, true, true⟩))
  else if name = "/dev/tty" then pure (some (.error .noDevice))
  else
    match deviceStream? name with
    | none => pure none
    | some stream => do
      match ← handle? stream with
      | some (_, h) => pure (some (.ok h))
      | none => pure (some (.error .missing))

/-- The number of the file at a path, which is created where there is none, and emptied when that is
asked for. -/
def creating (empties : Bool) (name : String) : Run (Except Fault Nat) := do
  match ← spot true name with
  | .error e => pure (.error e)
  | .ok s => do
    let d ← disk
    match s.found with
    | some n =>
      if d.isDirectory n then pure (.error .isDirectory)
      else do
        if empties then changeDisk fun now d => d.write now n []
        pure (.ok n)
    | none =>
      if name.endsWith "/" then pure (.error .isDirectory)
      else if !d.isAttached s.parent then pure (.error .missing)
      else do
        let now := (← getSystem).now
        let (d, n) := d.add now s.parent s.name (.regular []) (Mode.without 438 (← get).mask)
        modifySystem fun s => { s with disk := d }
        pure (.ok n)

/-- Opens a file: its handle. A file that is written is created, and emptied unless the writing goes
on at its end. -/
def openFile (opening : Opening) (name : String) : Run (Except Fault Handle) := do
  match ← deviceHandle? name with
  | some r => pure r
  | none => do
    let isFifo (e : Nat × Inode) : Bool :=
      match e.2.content with
      | .pipe => true
      | _ => false
    let fifo? := ((← node true name).toOption.filter isFifo).map Prod.fst
    let create (empties : Bool) (h : Nat → Handle) : Run (Except Fault Handle) := do
      return (← creating empties name).map h
    match opening, fifo? with
    | opening, some n => do
      let reads := opening == .read || opening == .readWrite
      return .ok (← openFifo reads (opening != .read) n)
    | .read, none => do
      return (← node true name).map fun (n, _) => ⟨.file n, 0, false, true, false⟩
    | .readWrite, none => create false fun n => ⟨.file n, 0, false, true, true⟩
    | .append, none => create false fun n => ⟨.file n, 0, true, false, true⟩
    | .clobber, none => create true fun n => ⟨.file n, 0, false, false, true⟩
    | .write, none => do
      let target ← node true name
      let isTaken := target.toOption.any fun (_, i) => i.isFile
      let isDangling := target.toOption.isNone && (← node false name).toOption.isSome
      if (← hasOption 'C') && (isTaken || isDangling) then pure (.error .occupied)
      else create true fun n => ⟨.file n, 0, false, false, true⟩

/-- Carries out a redirection. With `keeps` the stream is put aside first, so that a complaint about
it does not get through where it leads to. -/
def carryOut (output : Command → Run String) (keeps : Bool) (t : Target) : Run Unit := do
  match t with
  | .close stream => disconnect stream
  | .copy stream source =>
    match Entries.get? source (← get).streams with
    | some id => connect stream id
    | none =>
      if stream = source then pure ()
      else do
        if keeps then disconnect stream
        fail s!"{source}: Bad file descriptor"
  | .document stream number => do
    let w := (Entries.get? number (← get).documents).getD []
    let as ← atoms output .whole wordDepth false w
    let pipe ← fresh
    let content := (Atom.text as).toList
    modifySystem fun s =>
      { s with pipes := Entries.set pipe (.ofText content) s.pipes }
    connect stream (← newHandle ⟨.pipe pipe, 0, false, true, false⟩)
  | .file stream opening name => do
    match ← openFile opening name with
    | .ok h => connect stream (← newHandle h)
    | .error e =>
      let creates := opening != .read
      let verb := if creates then "create" else "open"
      fail s!"cannot {verb} {name}: {e.openMessage creates}"

/-- Leads some streams back to where they led before. -/
def restoreStreams (ts : List Target) (before : Entries Nat Nat) : Run Unit :=
  ts.forM fun t =>
    match Entries.get? t.stream before with
    | some id => connect t.stream id
    | none => disconnect t.stream

/-- Runs a step with redirected streams; `refused` says what follows when they cannot be opened.
With `stays` they remain redirected when the step is done. -/
def withTargets (output : Command → Run String) (ts : List Target) (refused : Run Nat)
    (step : Run Nat) (stays : Run Bool) : Run Nat := do
  let m ← get
  let before := m.streams
  let restore : Run Unit := do
    restoreStreams ts before
    modifySystem (System.keepOnly m.thread (m.system.heldBy m.thread))
  match ← attempt (ts.forM (carryOut output true)) with
  | .error .fault => do
    restore
    refused
  | .error h => throw h
  | .ok _ =>
    match ← attempt step with
    | .ok status => do
      if ← stays then letGo before else restore
      pure status
    | .error h => do
      restore
      throw h

end Run

end CredoAssistant.Shell
