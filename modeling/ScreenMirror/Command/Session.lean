import ScreenMirror.Compositor
import ScreenMirror.Config.Scene

/-!
# Sessions

A session shows a configuration: it starts with the scene of the configuration
and refreshes it again and again.  From the second refresh on a white bar moves
over every screen that has a picture of its own, eight pixels at a time, and
comes in again on the left.  What the bar covered and what it covers is reported
as changed.
-/

namespace ScreenMirror

structure Session (K : Type) where
  scene : Scene K
  loop : RenderLoop K := {}
  services : Services := {}
  /-- Where the bars are, by screen; none is shown at first. -/
  bars : List (NodeId × Rect)
  sequence : Nat := 0

namespace Session

variable {K : Type} [Scalar K]

def barWidth : Nat := 16

/-- How far the bars move in one refresh. -/
def barStep : Nat := 8

/-- The session of a configuration before its first refresh.  Every screen is its
own producer. -/
def start (c : Config K) : Checked (Session K) := do
  let scene ← c.scene fun screen => some screen.id
  let shown := scene.nodes.screens.filter (·.buffer.isSome)
  return { scene, bars := shown.map fun screen => (screen.id, Rect.empty) }

/-- Left edge of the bar on a screen of so many columns in a refresh. -/
def barLeft (sequence : Nat) (width : UInt32) : Nat := (sequence * barStep) % max width.toNat 1

def barPicture? (width height : UInt32) (left : Nat) : Option Picture :=
  (Picture.testPattern? width height).map fun pattern =>
    let x : K := Scalar.ofInt32 (Int32.ofNat left)
    let box : Box K :=
      ⟨x, 0.0, x + Scalar.ofInt32 (Int32.ofNat barWidth), Scalar.ofUInt32 height⟩
    ((Canvas.ofPicture pattern).fillBox box Rgba.white).picture

/-- A screen with its bar moved, and where the bar is now. -/
def moveBar (sequence : Nat) (bar : Rect) (screen : Screen K) : Screen K × Rect :=
  let size := screen.property
  let left := barLeft sequence size.width
  match barPicture? (K := K) size.width size.height left with
  | none => (screen, bar)
  | some picture =>
    let next := Rect.ofSize (Int32.ofNat left) 0 (Int32.ofNat barWidth) size.height.toInt32
    ({ screen with
        buffer := some picture
        cacheImage := screen.cacheImage.map fun _ => picture
        dirty := screen.dirty.extend [bar, next] }, next)

def moveOne (s : Session K) (entry : NodeId × Rect) : Session K :=
  match s.scene.nodes.screen entry.1 with
  | .error _ => { s with bars := s.bars ++ [entry] }
  | .ok screen =>
    let (screen, bar) := moveBar s.sequence entry.2 screen
    { s with
      scene := { s.scene with nodes := s.scene.nodes.insert entry.1 (.screen screen) }
      bars := s.bars ++ [(entry.1, bar)] }

def moveBars (s : Session K) : Session K := s.bars.foldl moveOne { s with bars := [] }

def advance (s : Session K) : Session K :=
  let s := if s.sequence = 0 then s else s.moveBars
  { s with loop := s.loop.sync s.scene }

def refresh (s : Session K) : Checked (Session K) := do
  let s := s.advance
  let (_, loop, services) ← s.loop.refresh s.services
  return { s with
    loop, services, scene := s.scene.consumeFlags, sequence := s.sequence + 1 }

/-- The session after a refresh that an overflow cuts short; there is no other one. -/
def cutShort (s : Session K) : Session K :=
  { s with services := s.advance.loop.cutShort s.services }

/-- So many refreshes.  An overflow ends the rendering, and what was rendered
before stays. -/
def run (s : Session K) : Nat → Session K
  | 0 => s
  | n + 1 =>
    match s.refresh with
    | .ok next => run next n
    | .error _ => s.cutShort

end Session

/-! ### Pictures of frames -/

namespace Config

variable {K : Type}

def frameName (s : ScreenConfig K) : String :=
  if s.name.isEmpty then "screen-" ++ toString s.id.toNat else s.name

/-- The screen that a producer stands for: the last one with its number. -/
def producedBy? (c : Config K) (producer : ProducerId) : Option (ScreenConfig K) :=
  c.screens.reverse.find? fun s => s.id == producer && s.role != .disabled && s.kind == .virtual

def fileName? (c : Config K) (producer : ProducerId) (seq : UInt64) : Option String :=
  (c.producedBy? producer).map fun s =>
    let digits := toString seq.toNat
    frameName s ++ "-" ++ "".pushn '0' (5 - digits.length) ++ digits ++ ".png"

end Config

/-- The entry of a new directory that a file name leads to, if there is one: the
name leads through no other directory and is not too long. -/
def entryName? (file : String) : Option String :=
  match (file.splitOn "/").filter fun part => part != "" && part != "." with
  | [name] =>
    if file.startsWith "/" || name.utf8ByteSize > 255 || name.contains '\x00' then none
    else some name
  | _ => none

/-- The pictures of all frames of a session in order, with the names of their files. -/
def Session.pictures {K : Type} (s : Session K) (c : Config K) : List (String × Picture) :=
  s.services.delivered.reverse.filterMap fun (producer, buffer) =>
    (c.fileName? producer buffer.seq).map fun name => (name, buffer.picture)

end ScreenMirror
