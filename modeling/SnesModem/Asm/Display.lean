import SnesModem.Lib.DroppingQueue
import SnesModem.Lib.TextScreen
import SnesModem.Asm.RingFifo

/-!
# The two screens of `terminal/print.asm` and `ui/status.asm`

The raw log mirrors what the modem sends; the status screen shows the tiles that the pages write.  Both are drawn in
VBlank, the one 32 octets and the other a row at a time, and the mode selects which of them is visible.

* `Vram`: the video memory behind its port;
* `Display`, `step`: the variables of both, what the main loop does with them, and VBlank;
* `screen`: the raw log as a screen of 64 rows and 32 columns, and `typed`, what an octet does to it.

The pages of the status screen are an event that stores any tiles, so that VBlank may come in the middle of one.  Nothing
queues in the middle of VBlank, and VBlank is not in the middle of queueing: the poll masks it.
-/

namespace SnesModem.Asm

open SnesModem.Lib SnesModem.Lib.Cpu65816 SnesModem.Lib.Octets SnesModem.Lib.TextScreen

/-! ### The video memory -/

/-- The words of the video memory, and the address of the port; VMAIN asks for the next address behind a high octet. -/
structure Vram where
  words : UInt16 → UInt16
  address : UInt16
  deriving Inhabited

namespace Vram

variable (v : Vram)

def writeAddress (address : UInt16) (v : Vram) : Vram := { v with address := address }

def writeLow (octet : UInt8) (v : Vram) : Vram :=
  { v with words := Function.update v.words v.address ((v.words v.address &&& (0xff00 : UInt16)) ||| octet.toUInt16) }

def writeHigh (octet : UInt8) (v : Vram) : Vram :=
  { words := Function.update v.words v.address ((v.words v.address &&& (0xff : UInt16)) ||| (octet.toUInt16 <<< 8))
    address := v.address + 1 }

end Vram

/-! ### The variables -/

/-- `SCREEN_MODE_*`. -/
inductive ScreenMode where
  | status | rawLog
  deriving DecidableEq, Repr, Inhabited

structure Display where
  /-- `terminalDisplayBuffer` with `terminalDisplayReadIndex` and `terminalDisplayWriteIndex`. -/
  queue : Ring
  cursor : UInt16
  verticalScroll : UInt16
  /-- `modemTerminalDroppedCount`. -/
  droppedCount : UInt32
  screenMode : ScreenMode
  statusTileBuffer : Buffer
  statusRenderRow : UInt8
  vram : Vram
  bg1sc : UInt8
  bg1vofs : UInt16
  /-- The octet of the last write to a scroll register, which goes below the next one. -/
  scrollLatch : UInt8
  deriving Inhabited

namespace Display

abbrev terminalRenderBudget : ℕ := 0x20
abbrev terminalTilemapBase : UInt16 := 0x4800
abbrev terminalTilemapMask : UInt16 := 0x7ff
abbrev terminalRowMask : UInt16 := 0x7e0
abbrev terminalColumns : UInt16 := 0x20
abbrev terminalScrollAnchor : UInt16 := 0xd9
abbrev terminalBg1sc : UInt8 := 0x4a
abbrev statusTilemapBase : UInt16 := 0x4000
abbrev statusBg1sc : UInt8 := 0x42

/-! ### `print.asm` -/

def terminalInitialize (d : Display) : Display :=
  { d with queue := d.queue.reset, cursor := 0, verticalScroll := 0, droppedCount := 0 }

/-- A full queue loses its oldest octet. -/
def terminalQueueByte (octet : UInt8) (d : Display) : Display :=
  let d :=
    if d.queue.writeIndex + 1 = d.queue.readIndex then
      { d with queue := { d.queue with readIndex := d.queue.readIndex + 1 }, droppedCount := d.droppedCount + 1 }
    else d
  { d with queue := { d.queue with
      storage := Function.update d.queue.storage d.queue.writeIndex.toNat octet
      writeIndex := d.queue.writeIndex + 1 } }

/-- `@renderByte`. -/
def renderByte (octet : UInt8) (d : Display) : Display :=
  if octet = 0x0d then { d with cursor := d.cursor &&& terminalRowMask }
  else if octet = 0x0a then { d with cursor := ((d.cursor &&& terminalRowMask) + terminalColumns) &&& terminalTilemapMask }
  else if octet = 0x08 then { d with cursor := (d.cursor - 1) &&& terminalTilemapMask }
  else if octet < 0x20 then d
  else if 0x7f ≤ octet then d
  else
    { d with
      vram := ((d.vram.writeAddress (d.cursor + terminalTilemapBase)).writeLow octet).writeHigh 0
      cursor := (d.cursor + 1) &&& terminalTilemapMask }

/-- `@nextByte`, with the octets that it may still take. -/
def renderBytes : ℕ → Display → Display
  | 0, d => d
  | x + 1, d =>
    match d.queue.pop with
    | none => d
    | some (octet, queue) => renderBytes x (renderByte octet { d with queue := queue })

def terminalRenderVBlank (d : Display) : Display :=
  let d := renderBytes terminalRenderBudget d
  { d with verticalScroll := ((d.cursor &&& terminalRowMask) >>> 2) - terminalScrollAnchor }

/-! ### `status.asm` -/

/-- `@copyInitial` and `@copyRow`, with the tiles that are left and the one that is next. -/
def copyTiles : ℕ → ℕ → Display → Display
  | 0, _, d => d
  | y + 1, x, d => copyTiles y (x + 1) { d with vram := (d.vram.writeLow (d.statusTileBuffer x)).writeHigh 0 }

/-- The tiles are those of the first page. -/
def statusInitialize (tiles : Buffer) (d : Display) : Display :=
  let d := { d with statusTileBuffer := tiles, statusRenderRow := 0, screenMode := .status }
  copyTiles 1024 0 { d with vram := d.vram.writeAddress statusTilemapBase }

def statusRenderVBlank (d : Display) : Display :=
  let x := d.statusRenderRow.toUInt16 <<< 5
  let d := copyTiles 32 x.toNat { d with vram := d.vram.writeAddress (x + statusTilemapBase) }
  { d with statusRenderRow := (d.statusRenderRow + 1) &&& 31 }

/-- A store to BG1VOFS. -/
def writeScroll (octet : UInt8) (d : Display) : Display :=
  { d with bg1vofs := word octet d.scrollLatch, scrollLatch := octet }

def screenApplyVBlank (d : Display) : Display :=
  match d.screenMode with
  | .status => writeScroll 0xff (writeScroll 0xff { d with bg1sc := statusBg1sc })
  | .rawLog =>
    writeScroll (high d.verticalScroll) (writeScroll (low d.verticalScroll) { d with bg1sc := terminalBg1sc })

/-- What `VBlankFast` does with the screens. -/
def vBlank (d : Display) : Display := screenApplyVBlank (statusRenderVBlank (terminalRenderVBlank d))

/-! ### Runs -/

inductive Event where
  | queueByte (octet : UInt8)
  /-- A page stores into the tile buffer. -/
  | tiles (buffer : Buffer)
  | select (mode : ScreenMode)
  | vBlank

def step (d : Display) : Event → Display
  | .queueByte octet => terminalQueueByte octet d
  | .tiles buffer => { d with statusTileBuffer := buffer }
  | .select mode => { d with screenMode := mode }
  | .vBlank => vBlank d

/-- What happens to the queue. -/
def Event.traffic : Event → Option (DroppingQueue.Event UInt8)
  | .queueByte octet => some (.push octet)
  | .vBlank => some .take
  | _ => none

/-- The screens after a reset. -/
def reset (tiles : Buffer) (d : Display) : Display := statusInitialize tiles (terminalInitialize d)

def after (tiles : Buffer) (d : Display) (events : List Event) : Display := Run.run step (reset tiles d) events

/-! ### The raw log as a screen -/

/-- The word of the raw log in a row and a column. -/
def rawLogCells (v : Vram) (row : Fin 64) (column : Fin 32) : UInt16 :=
  v.words (terminalTilemapBase + UInt16.ofNat (cell row column))

/-- The raw log, as its cursor and the video memory have it. -/
def screen (d : Display) : Screen 64 32 UInt16 where
  row := Fin.ofNat 64 (d.cursor.toNat / 32)
  column := Fin.ofNat 32 d.cursor.toNat
  cells := rawLogCells d.vram

/-- The word of the status screen in a row and a column. -/
def statusCells (v : Vram) (row column : Fin 32) : UInt16 := v.words (statusTilemapBase + UInt16.ofNat (cell row column))

/-- The word that the PPU shows on a scan line, of which the first is number 1: the map of 64 rows at the base of BG1SC,
as far up as BG1VOFS says. -/
def visible (d : Display) (y : ℕ) (column : Fin 32) : UInt16 :=
  d.vram.words (((d.bg1sc >>> 2).toUInt16 <<< 10) + UInt16.ofNat (32 * ((d.bg1vofs.toNat + y) % 512 / 8) + column))

/-- What an octet does to a screen, as `docs/terminal.md` lists it. -/
def typed (s : Screen 64 32 UInt16) (octet : UInt8) : Screen 64 32 UInt16 :=
  if octet = 0x0d then s.home
  else if octet = 0x0a then s.newline
  else if octet = 0x08 then s.back
  else if 0x20 ≤ octet ∧ octet ≤ 0x7e then s.put octet.toUInt16
  else s

end Display

end SnesModem.Asm
