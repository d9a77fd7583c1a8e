import SnesModem.Asm.Display

/-!
# The raw log is a screen of text, and the status screen is its tiles

* `renderByte_draws`: an octet that is rendered is typed on the screen;
* `Shows`: the display stands for the traffic of a queue that drops its oldest entries, and for a screen;
* `raw_log_shows`: from the reset on, the raw log is what was taken from the queue, typed octet by octet;
* `raw_log_keeps_pace`: with at most 32 octets between two VBlanks nothing is dropped;
* `status_row_recent`: a row of the status screen is never older than 32 VBlanks;
* `visible_rawLog`: the row of the cursor is the lowest one that is visible.
-/

namespace SnesModem.Asm

open SnesModem.Lib SnesModem.Lib.Cpu65816 SnesModem.Lib.Octets SnesModem.Lib.TextScreen SnesModem.Lib.DroppingQueue

/-! ### Masks and words -/

/-- The bits of a number from the fifth to the tenth. -/
lemma and_row (x : ℕ) : x &&& 0x7e0 = x % 2048 / 32 * 32 := by
  have hmask : (0x7e0 : ℕ) = (2 ^ 6 - 1) * 2 ^ 5 := by norm_num
  have hlow : (2048 : ℕ) = 2 ^ 11 := by norm_num
  have hstep : (32 : ℕ) = 2 ^ 5 := by norm_num
  rw [hmask, hlow, hstep]
  refine Nat.eq_of_testBit_eq fun i => ?_
  rw [Nat.testBit_and, Nat.testBit_mul_two_pow, Nat.testBit_mul_two_pow, Nat.testBit_two_pow_sub_one,
    Nat.testBit_div_two_pow, Nat.testBit_mod_two_pow]
  rcases Nat.lt_or_ge i 5 with hi | hi
  · simp [Nat.not_le_of_lt hi]
  · rw [Nat.sub_add_cancel hi]
    by_cases hlt : i < 11
    · simp [hi, hlt, show i - 5 < 6 by omega]
    · simp [hlt, show ¬ i - 5 < 6 by omega]

namespace Display

lemma toNat_and_tilemap (x : UInt16) : (x &&& terminalTilemapMask).toNat = x.toNat % 2048 :=
  (UInt16.toNat_and _ _).trans (Nat.and_two_pow_sub_one_eq_mod _ 11)

lemma toNat_and_row {x : UInt16} (hx : x.toNat < 2048) : (x &&& terminalRowMask).toNat = x.toNat / 32 * 32 := by
  rw [UInt16.toNat_and]
  exact (and_row _).trans (by rw [Nat.mod_eq_of_lt hx])

/-- An octet that is written with a zero above it is the word. -/
lemma write_word (v : Vram) (octet : UInt8) :
    (v.writeLow octet).writeHigh 0 =
      { words := Function.update v.words v.address octet.toUInt16, address := v.address + 1 } := by
  have hword : ((((v.words v.address &&& (0xff00 : UInt16)) ||| octet.toUInt16) &&& (0xff : UInt16)) |||
      ((0 : UInt8).toUInt16 <<< 8)) = octet.toUInt16 := by
    have hoctet := octet.toNat_lt
    rw [← UInt16.toNat_inj]
    have hmask : (v.words v.address).toNat &&& 0xff00 &&& 0xff = 0 := by
      rw [Nat.and_assoc]
      exact Nat.and_zero _
    have hlow : octet.toNat &&& 0xff = octet.toNat := by
      have hmod := Nat.and_two_pow_sub_one_eq_mod octet.toNat 8
      rwa [Nat.mod_eq_of_lt hoctet] at hmod
    have hzero : ((0 : UInt8).toUInt16 <<< 8 : UInt16).toNat = 0 := rfl
    rw [UInt16.toNat_or, hzero, Nat.or_zero, UInt16.toNat_and, UInt16.toNat_or, UInt16.toNat_and,
      Nat.and_or_distrib_right]
    change (v.words v.address).toNat &&& 0xff00 &&& 0xff ||| octet.toNat &&& 0xff = octet.toNat
    rw [hmask, hlow, Nat.zero_or]
  unfold Vram.writeLow Vram.writeHigh
  simp only [Function.update_self, Function.update_idem]
  rw [hword]

/-! ### The screen of the raw log -/

/-- The cursor is on the screen, and the row is one of the status screen. -/
structure Valid (d : Display) : Prop where
  cursor : d.cursor.toNat < 2048
  row : d.statusRenderRow.toNat < 32

section Screen

variable {d : Display}

lemma screen_cursor (hcursor : d.cursor.toNat < 2048) : d.screen.cursor = d.cursor.toNat := by
  simp only [Screen.cursor, screen, cell, Fin.val_ofNat]
  omega

/-- A screen is told by its cells and by the number of the one under the cursor. -/
lemma screen_eq {s : Screen 64 32 UInt16} (hcursor : d.cursor.toNat < 2048) (hat : d.cursor.toNat = s.cursor)
    (hcells : rawLogCells d.vram = s.cells) : d.screen = s := by
  have hcell : cell d.screen.row d.screen.column = cell s.row s.column := (screen_cursor hcursor).trans hat
  obtain ⟨hrow, hcolumn⟩ := cell_inj.mp hcell
  cases s
  exact Screen.mk.injEq _ _ _ _ _ _ ▸ ⟨hrow, hcolumn, hcells⟩

/-- The address of a cell. -/
lemma toNat_address {base : UInt16} {i : ℕ} (hbase : base.toNat + i < 65536) :
    (base + UInt16.ofNat i).toNat = base.toNat + i := by
  rw [UInt16.toNat_add, UInt16.toNat_ofNat', Nat.mod_eq_of_lt (a := i) (by omega), Nat.mod_eq_of_lt hbase]

lemma toNat_rawLog (row : Fin 64) (column : Fin 32) :
    (terminalTilemapBase + UInt16.ofNat (cell row column)).toNat = 0x4800 + cell row column := by
  have hcell := cell_lt row column
  exact toNat_address (by change 0x4800 + _ < _; omega)

/-- A word at the cursor is the cell under it. -/
lemma rawLogCells_update (hcursor : d.cursor.toNat < 2048) (word address : UInt16) :
    rawLogCells ⟨Function.update d.vram.words (d.cursor + terminalTilemapBase) word, address⟩ =
      Function.update d.screen.cells d.screen.row (Function.update (d.screen.cells d.screen.row) d.screen.column word) := by
  have haddress : (d.cursor + terminalTilemapBase).toNat = 0x4800 + d.cursor.toNat := by
    rw [UInt16.toNat_add]
    change (_ + 0x4800) % 65536 = _
    omega
  funext row column
  unfold rawLogCells
  dsimp only
  have hiff : terminalTilemapBase + UInt16.ofNat (cell row column) = d.cursor + terminalTilemapBase ↔
      row = d.screen.row ∧ column = d.screen.column := by
    rw [← UInt16.toNat_inj, toNat_rawLog, haddress, ← screen_cursor hcursor, Screen.cursor, ← cell_inj]
    omega
  by_cases hhere : row = d.screen.row ∧ column = d.screen.column
  · rw [hiff.mpr hhere, Function.update_self, hhere.1, hhere.2, Function.update_self, Function.update_self]
  · rw [Function.update_of_ne (mt hiff.mp hhere)]
    by_cases hrow : row = d.screen.row
    · subst hrow
      rw [Function.update_self, Function.update_of_ne fun hcolumn => hhere ⟨rfl, hcolumn⟩]
      rfl
    · rw [Function.update_of_ne hrow]
      rfl

end Screen

/-- What has been typed on the screen, with the rest as before. -/
structure Draws (d d' : Display) (octets : List UInt8) : Prop where
  cursor : d'.cursor.toNat < 2048
  screen : d'.screen = octets.foldl typed d.screen
  words : ∀ address : UInt16, address.toNat < 0x4800 ∨ 0x5000 ≤ address.toNat →
    d'.vram.words address = d.vram.words address
  droppedCount : d'.droppedCount = d.droppedCount
  statusTileBuffer : d'.statusTileBuffer = d.statusTileBuffer
  statusRenderRow : d'.statusRenderRow = d.statusRenderRow
  screenMode : d'.screenMode = d.screenMode

namespace Draws

variable {d d' d'' : Display} {octets octets' : List UInt8}

lemma trans (h : Draws d d' octets) (h' : Draws d' d'' octets') : Draws d d'' (octets ++ octets') where
  cursor := h'.cursor
  screen := by rw [h'.screen, h.screen, List.foldl_append]
  words address haddress := (h'.words address haddress).trans (h.words address haddress)
  droppedCount := h'.droppedCount.trans h.droppedCount
  statusTileBuffer := h'.statusTileBuffer.trans h.statusTileBuffer
  statusRenderRow := h'.statusRenderRow.trans h.statusRenderRow
  screenMode := h'.screenMode.trans h.screenMode

/-- Only the queue is another one. -/
lemma ofQueue (hcursor : d.cursor.toNat < 2048) (queue : Ring) : Draws d { d with queue := queue } [] :=
  ⟨hcursor, rfl, fun _ _ => rfl, rfl, rfl, rfl, rfl⟩

/-- Only the cursor moves. -/
lemma ofCursor {octet : UInt8} {cursor : UInt16} (hcursor : cursor.toNat < 2048)
    (hat : cursor.toNat = (typed d.screen octet).cursor) (hcells : d.screen.cells = (typed d.screen octet).cells) :
    Draws d { d with cursor := cursor } [octet] :=
  ⟨hcursor, screen_eq hcursor hat hcells, fun _ _ => rfl, rfl, rfl, rfl, rfl⟩

end Draws

section Rendering

variable {d : Display} {octet : UInt8}

/-- An octet that does nothing. -/
lemma Draws.ofIgnored (hcursor : d.cursor.toNat < 2048) (htyped : typed d.screen octet = d.screen) :
    Draws d d [octet] :=
  ⟨hcursor, by rw [List.foldl_cons, List.foldl_nil, htyped], fun _ _ => rfl, rfl, rfl, rfl, rfl⟩

/-- A character at the cursor, which goes on. -/
lemma Draws.ofPut (hcursor : d.cursor.toNat < 2048) (htyped : typed d.screen octet = d.screen.put octet.toUInt16) :
    Draws d { d with
      vram := ((d.vram.writeAddress (d.cursor + terminalTilemapBase)).writeLow octet).writeHigh 0
      cursor := d.cursor + 1 &&& terminalTilemapMask } [octet] := by
  have hat : (d.cursor + 1 &&& terminalTilemapMask).toNat = (d.cursor.toNat + 1) % 2048 := by
    rw [toNat_and_tilemap, UInt16.toNat_add]
    change (_ + 1) % 65536 % 2048 = _
    omega
  have hlt : (d.cursor + 1 &&& terminalTilemapMask).toNat < 2048 := hat.trans_lt (Nat.mod_lt _ (by norm_num))
  have haddress : (d.cursor + terminalTilemapBase).toNat = d.cursor.toNat + 0x4800 := by
    rw [UInt16.toNat_add]
    change (_ + 0x4800) % 65536 = _
    omega
  have hcells : (d.screen.put octet.toUInt16).cells =
      Function.update d.screen.cells d.screen.row
        (Function.update (d.screen.cells d.screen.row) d.screen.column octet.toUInt16) := by
    rw [Screen.put, Screen.forth]
    split_ifs <;> rfl
  have hdrawn := rawLogCells_update hcursor octet.toUInt16 (d.cursor + terminalTilemapBase + 1)
  rw [write_word]
  dsimp only [Vram.writeAddress]
  refine ⟨hlt, ?_, fun address houtside => ?_, rfl, rfl, rfl, rfl⟩
  · rw [List.foldl_cons, List.foldl_nil, htyped]
    refine screen_eq hlt ?_ ?_
    · rw [Screen.put, Screen.cursor_forth, hat, ← screen_cursor hcursor]
      rfl
    · rw [hcells]
      exact hdrawn
  · have hne : address ≠ d.cursor + terminalTilemapBase := by
      rintro rfl
      omega
    dsimp only
    rw [Function.update_of_ne hne]

/-- **An octet that is rendered** is typed on the screen. -/
theorem renderByte_draws (octet : UInt8) (hcursor : d.cursor.toNat < 2048) : Draws d (renderByte octet d) [octet] := by
  have hscreen := screen_cursor hcursor
  have hlast : (0x7f : UInt8).toNat = (0x7e : UInt8).toNat + 1 := rfl
  unfold renderByte
  split_ifs with hreturn hfeed hbackspace hcontrol hdelete
  · have hat := toNat_and_row hcursor
    refine Draws.ofCursor (by omega) ?_ ?_ <;> rw [typed, if_pos hreturn]
    · rw [Screen.cursor_home, hscreen, hat]
    · rfl
  · have hrow := toNat_and_row hcursor
    have hat : ((d.cursor &&& terminalRowMask) + terminalColumns &&& terminalTilemapMask).toNat =
        (d.cursor.toNat / 32 * 32 + 32) % 2048 := by
      rw [toNat_and_tilemap, UInt16.toNat_add, hrow]
      change (_ + 32) % 65536 % 2048 = _
      omega
    refine Draws.ofCursor (by omega) ?_ ?_ <;> rw [typed, if_neg hreturn, if_pos hfeed]
    · rw [Screen.cursor_newline, hscreen, hat]
    · rfl
  · have hat : (d.cursor - 1 &&& terminalTilemapMask).toNat = (d.cursor.toNat + 2047) % 2048 := by
      rw [toNat_and_tilemap, UInt16.toNat_sub]
      change (65536 - 1 + _) % 65536 % 2048 = _
      omega
    refine Draws.ofCursor (by omega) ?_ ?_ <;> rw [typed, if_neg hreturn, if_neg hfeed, if_pos hbackspace]
    · rw [Screen.cursor_back, hscreen, hat]
      rfl
    · rw [Screen.back]
      split_ifs <;> rfl
  all_goals rw [UInt8.lt_iff_toNat_lt] at hcontrol
  · refine Draws.ofIgnored hcursor ?_
    rw [typed, if_neg hreturn, if_neg hfeed, if_neg hbackspace, if_neg]
    rw [UInt8.le_iff_toNat_le]
    omega
  all_goals rw [UInt8.le_iff_toNat_le] at hdelete
  · refine Draws.ofIgnored hcursor ?_
    rw [typed, if_neg hreturn, if_neg hfeed, if_neg hbackspace, if_neg]
    rw [UInt8.le_iff_toNat_le, UInt8.le_iff_toNat_le]
    omega
  · refine Draws.ofPut hcursor ?_
    rw [typed, if_neg hreturn, if_neg hfeed, if_neg hbackspace, if_pos]
    rw [UInt8.le_iff_toNat_le, UInt8.le_iff_toNat_le]
    omega

lemma renderByte_queue (octet : UInt8) (d : Display) : (renderByte octet d).queue = d.queue := by
  unfold renderByte
  split_ifs <;> rfl

/-- The loop takes what there is of the budget, and types it. -/
lemma renderBytes_draws (budget : ℕ) (hcursor : d.cursor.toNat < 2048) :
    (renderBytes budget d).queue.contents = d.queue.contents.drop budget ∧
      Draws d (renderBytes budget d) (d.queue.contents.take budget) := by
  induction budget generalizing d with
  | zero => exact ⟨rfl, Draws.ofQueue hcursor d.queue⟩
  | succ budget ih =>
    unfold renderBytes
    cases hpop : d.queue.pop with
    | none =>
      dsimp only
      rw [Ring.contents_of_pop_none hpop, List.drop_nil, List.take_nil]
      exact ⟨rfl, Draws.ofQueue hcursor d.queue⟩
    | some popped =>
      obtain ⟨octet, queue⟩ := popped
      dsimp only
      have hbyte := renderByte_draws octet (d := { d with queue := queue }) hcursor
      obtain ⟨hqueue, hdraws⟩ := ih hbyte.cursor
      rw [renderByte_queue] at hqueue hdraws
      rw [Ring.contents_of_pop hpop, List.drop_succ_cons, List.take_succ_cons]
      exact ⟨hqueue, ((Draws.ofQueue hcursor queue).trans hbyte).trans hdraws⟩

lemma terminalRenderVBlank_draws (hcursor : d.cursor.toNat < 2048) :
    (terminalRenderVBlank d).queue.contents = d.queue.contents.drop terminalRenderBudget ∧
      Draws d (terminalRenderVBlank d) (d.queue.contents.take terminalRenderBudget) := by
  obtain ⟨hqueue, hdraws⟩ := renderBytes_draws terminalRenderBudget hcursor
  exact ⟨hqueue, hdraws.cursor, hdraws.screen, hdraws.words, hdraws.droppedCount, hdraws.statusTileBuffer,
    hdraws.statusRenderRow, hdraws.screenMode⟩

end Rendering

/-! ### The tiles of the status screen -/

section Tiles

variable {d : Display}

/-- Only the video memory is another one. -/
lemma copyTiles_eq (count x : ℕ) (d : Display) : copyTiles count x d = { d with vram := (copyTiles count x d).vram } := by
  induction count generalizing x d with
  | zero => rfl
  | succ count ih => exact ih _ _

/-- The words that are copied, and the others. -/
lemma words_copyTiles (count x : ℕ) (hfits : d.vram.address.toNat + count < 65536) (address : UInt16) :
    (copyTiles count x d).vram.words address =
      if d.vram.address.toNat ≤ address.toNat ∧ address.toNat < d.vram.address.toNat + count then
        (d.statusTileBuffer (x + (address.toNat - d.vram.address.toNat))).toUInt16
      else d.vram.words address := by
  induction count generalizing x d with
  | zero =>
    rw [if_neg (by omega)]
    rfl
  | succ count ih =>
    have hnext : (d.vram.address + 1).toNat = d.vram.address.toNat + 1 := by
      rw [UInt16.toNat_add]
      change (_ + 1) % 65536 = _
      omega
    rw [copyTiles, write_word, ih (x + 1) (by dsimp only; rw [hnext]; omega)]
    dsimp only
    rw [hnext]
    by_cases hhere : address = d.vram.address
    · subst hhere
      rw [if_neg (by omega), if_pos (by omega), Function.update_self, Nat.sub_self, Nat.add_zero]
    · have hne : address.toNat ≠ d.vram.address.toNat := fun heq => hhere (UInt16.toNat_inj.mp heq)
      rw [Function.update_of_ne hhere]
      by_cases hinside : d.vram.address.toNat ≤ address.toNat ∧ address.toNat < d.vram.address.toNat + (count + 1)
      · rw [if_pos (by omega), if_pos hinside]
        congr 2
        omega
      · rw [if_neg (by omega), if_neg hinside]

lemma toNat_renderRow (hrow : d.statusRenderRow.toNat < 32) :
    (d.statusRenderRow.toUInt16 <<< 5 : UInt16).toNat = 32 * d.statusRenderRow.toNat := by
  rw [UInt16.toNat_shiftLeft]
  change d.statusRenderRow.toNat <<< 5 % 65536 = _
  rw [Nat.shiftLeft_eq]
  omega

/-- The row that is drawn. -/
lemma words_statusRenderVBlank (hrow : d.statusRenderRow.toNat < 32) (address : UInt16) :
    (statusRenderVBlank d).vram.words address =
      if 0x4000 + 32 * d.statusRenderRow.toNat ≤ address.toNat ∧
          address.toNat < 0x4000 + 32 * d.statusRenderRow.toNat + 32 then
        (d.statusTileBuffer (32 * d.statusRenderRow.toNat + (address.toNat - (0x4000 + 32 * d.statusRenderRow.toNat)))).toUInt16
      else d.vram.words address := by
  have hx := toNat_renderRow hrow
  have hbase : ((d.statusRenderRow.toUInt16 <<< 5) + statusTilemapBase).toNat = 0x4000 + 32 * d.statusRenderRow.toNat := by
    rw [UInt16.toNat_add, hx]
    change (_ + 0x4000) % 65536 = _
    omega
  have hwords := words_copyTiles 32 (d.statusRenderRow.toUInt16 <<< 5).toNat
    (d := { d with vram := d.vram.writeAddress ((d.statusRenderRow.toUInt16 <<< 5) + statusTilemapBase) })
    (by rw [Vram.writeAddress, hbase]; omega) address
  simp only [Vram.writeAddress, hbase, hx] at hwords
  unfold statusRenderVBlank
  dsimp only [Vram.writeAddress]
  rw [hx]
  exact hwords

lemma statusRenderVBlank_eq (d : Display) :
    statusRenderVBlank d =
      { d with vram := (statusRenderVBlank d).vram, statusRenderRow := (d.statusRenderRow + 1) &&& 31 } := by
  have hcopied := copyTiles_eq 32 (d.statusRenderRow.toUInt16 <<< 5).toNat
    { d with vram := d.vram.writeAddress ((d.statusRenderRow.toUInt16 <<< 5) + statusTilemapBase) }
  exact congrArg (fun d : Display => { d with statusRenderRow := (d.statusRenderRow + 1) &&& 31 }) hcopied

lemma toNat_nextRow (d : Display) :
    ((d.statusRenderRow + 1) &&& 31 : UInt8).toNat = (d.statusRenderRow.toNat + 1) % 32 := by
  have hmod : ((d.statusRenderRow + 1) &&& 31 : UInt8).toNat = (d.statusRenderRow + 1).toNat % 32 :=
    (UInt8.toNat_and _ _).trans (Nat.and_two_pow_sub_one_eq_mod _ 5)
  rw [hmod, UInt8.toNat_add]
  change (_ + 1) % 256 % 32 = _
  omega

lemma toNat_status (row column : Fin 32) :
    (statusTilemapBase + UInt16.ofNat (cell row column)).toNat = 0x4000 + cell row column := by
  have hcell := cell_lt row column
  exact toNat_address (by change 0x4000 + _ < _; omega)

/-- The row that is drawn is that of the tiles; the others stay. -/
lemma statusCells_statusRenderVBlank (hrow : d.statusRenderRow.toNat < 32) (row column : Fin 32) :
    statusCells (statusRenderVBlank d).vram row column =
      if row = d.statusRenderRow.toNat then (d.statusTileBuffer (cell row column)).toUInt16
      else statusCells d.vram row column := by
  have hcolumn := column.isLt
  rw [statusCells, words_statusRenderVBlank hrow, toNat_status, cell]
  by_cases hhere : (row : ℕ) = d.statusRenderRow.toNat
  · rw [if_pos (by omega), if_pos hhere, hhere]
    congr 2
    omega
  · rw [if_neg (by omega), if_neg hhere, statusCells, cell]

/-- The raw log is elsewhere. -/
lemma rawLogCells_statusRenderVBlank (hrow : d.statusRenderRow.toNat < 32) :
    rawLogCells (statusRenderVBlank d).vram = rawLogCells d.vram := by
  funext row column
  rw [rawLogCells, words_statusRenderVBlank hrow, toNat_rawLog, if_neg (by omega), rawLogCells]

lemma Draws.statusCells {d' : Display} {octets : List UInt8} (h : Draws d d' octets) (row column : Fin 32) :
    Display.statusCells d'.vram row column = Display.statusCells d.vram row column := by
  have hcell := cell_lt row column
  refine h.words _ (Or.inl ?_)
  rw [toNat_status]
  omega

end Tiles

/-! ### The runs -/

lemma screenApplyVBlank_eq (d : Display) :
    screenApplyVBlank d = { d with
      bg1sc := (screenApplyVBlank d).bg1sc
      bg1vofs := (screenApplyVBlank d).bg1vofs
      scrollLatch := (screenApplyVBlank d).scrollLatch } := by
  unfold screenApplyVBlank
  cases d.screenMode <;> rfl

/-- The display stands for the traffic of its queue, and for the screen on which that has been typed. -/
structure Shows (blank : Screen 64 32 UInt16) (d : Display) (t : Traffic UInt8) : Prop where
  valid : Valid d
  contents : d.queue.contents = t.pending
  droppedCount : d.droppedCount = UInt32.ofNat t.dropped
  screen : d.screen = t.taken.foldl typed blank

/-- The octets that are queued. -/
def queuedOf (events : List Event) : List UInt8 := pushed (events.filterMap Event.traffic)

/-- What becomes of them, in a queue of 255 octets of which VBlank takes 32. -/
def trafficOf (events : List Event) : Traffic UInt8 :=
  Run.run (DroppingQueue.step 255 terminalRenderBudget) Traffic.none (events.filterMap Event.traffic)

section Runs

variable {blank : Screen 64 32 UInt16} {d : Display} {t : Traffic UInt8}

/-- A full queue loses its first octet to the new one. -/
lemma terminalQueueByte_shows (octet : UInt8) (h : Shows blank d t) :
    Shows blank (terminalQueueByte octet d) (DroppingQueue.step 255 terminalRenderBudget t (.push octet)) := by
  by_cases hfull : d.queue.held = 255
  · have hindexes := Ring.held_eq_iff_full.mp hfull
    have hsome : d.queue.isEmpty = false := by
      rw [← Bool.not_eq_true, ← Ring.held_eq_zero_iff, hfull]
      norm_num
    have hadvance := Ring.contents_advance d.queue.storage hsome fun _ _ _ => rfl
    set queue : Ring := { d.queue with readIndex := d.queue.readIndex + 1 } with hqueue
    have hlength : queue.held + 1 = 255 := by
      rw [← hfull, ← Ring.length_contents, ← Ring.length_contents, ← hadvance, List.length_cons]
    have hroom : queue.writeIndex + 1 ≠ queue.readIndex := fun hfull' => by
      rw [← Ring.held_eq_iff_full] at hfull'
      omega
    have hpush := (Ring.contents_push octet (r := queue) (by omega)).2
    rw [Ring.push, if_neg hroom] at hpush
    have hpending : t.pending = d.queue.storage d.queue.readIndex.toNat :: queue.contents := by
      rw [← h.contents, ← hadvance]
    have hlost : (d.queue.storage d.queue.readIndex.toNat :: queue.contents).length + 1 - 255 = 1 := by
      rw [List.length_cons, Ring.length_contents]
      omega
    unfold terminalQueueByte
    rw [if_pos hindexes]
    refine ⟨⟨h.valid.cursor, h.valid.row⟩, ?_, ?_, ?_⟩
    · rw [DroppingQueue.step, hpending, push_of_full (by rw [Ring.length_contents]; exact hlength)]
      exact hpush
    · rw [DroppingQueue.step, hpending, hlost, UInt32.ofNat_add, ← h.droppedCount]
      rfl
    · rw [taken_push, ← h.screen]
      rfl
  · have hroom : d.queue.held < 255 := by
      have hlt := d.queue.held_lt
      omega
    have hindexes := mt Ring.held_eq_iff_full.mpr hfull
    have hpush := (Ring.contents_push octet hroom).2
    rw [Ring.push, if_neg hindexes] at hpush
    have hlength : t.pending.length < 255 := by
      rw [← h.contents, Ring.length_contents]
      exact hroom
    unfold terminalQueueByte
    rw [if_neg hindexes]
    refine ⟨⟨h.valid.cursor, h.valid.row⟩, ?_, ?_, ?_⟩
    · rw [DroppingQueue.step, push_of_lt hlength, ← h.contents]
      exact hpush
    · rw [DroppingQueue.step, Nat.sub_eq_zero_of_le hlength, Nat.add_zero]
      exact h.droppedCount
    · rw [taken_push, ← h.screen]
      rfl

/-- What VBlank leaves: the octets of one turn typed, a row of tiles drawn, and all else as it was. -/
structure Blanks (d d' : Display) : Prop where
  queue : d'.queue.contents = d.queue.contents.drop terminalRenderBudget
  cursor : d'.cursor.toNat < 2048
  screen : d'.screen = (d.queue.contents.take terminalRenderBudget).foldl typed d.screen
  droppedCount : d'.droppedCount = d.droppedCount
  statusTileBuffer : d'.statusTileBuffer = d.statusTileBuffer
  row : d'.statusRenderRow.toNat = (d.statusRenderRow.toNat + 1) % 32
  statusCells : ∀ row column, Display.statusCells d'.vram row column =
    if row = d.statusRenderRow.toNat then (d.statusTileBuffer (cell row column)).toUInt16
    else Display.statusCells d.vram row column

/-- **VBlank** draws on each of the two screens, and neither disturbs the other. -/
theorem vBlank_blanks (h : Valid d) : Blanks d (vBlank d) := by
  obtain ⟨hqueue, hdraws⟩ := terminalRenderVBlank_draws h.cursor
  have hrow : (terminalRenderVBlank d).statusRenderRow.toNat < 32 := by
    rw [hdraws.statusRenderRow]
    exact h.row
  rw [vBlank, screenApplyVBlank_eq, statusRenderVBlank_eq]
  refine ⟨hqueue, hdraws.cursor, ?_, hdraws.droppedCount, hdraws.statusTileBuffer, ?_, fun row column => ?_⟩
  · rw [← hdraws.screen]
    have hcells := rawLogCells_statusRenderVBlank hrow
    unfold screen
    dsimp only
    rw [hcells]
  · have hnext := toNat_nextRow (terminalRenderVBlank d)
    rw [hdraws.statusRenderRow] at hnext
    rw [← hnext, hdraws.statusRenderRow]
  · have hcells := statusCells_statusRenderVBlank hrow row column
    rw [hdraws.statusRenderRow, hdraws.statusTileBuffer, hdraws.statusCells] at hcells
    exact hcells

lemma vBlank_shows (h : Shows blank d t) :
    Shows blank (vBlank d) (DroppingQueue.step 255 terminalRenderBudget t .take) := by
  have hblanks := vBlank_blanks h.valid
  have hrow := h.valid.row
  have hcontents := hblanks.queue
  have hscreen := hblanks.screen
  rw [h.contents] at hcontents hscreen
  refine ⟨⟨hblanks.cursor, ?_⟩, hcontents, hblanks.droppedCount.trans h.droppedCount, ?_⟩
  · rw [hblanks.row]
    omega
  · rw [hscreen, h.screen, ← List.foldl_append]
    rfl

lemma step_shows (event : Event) (h : Shows blank d t) :
    Shows blank (step d event) (event.traffic.elim t (DroppingQueue.step 255 terminalRenderBudget t)) := by
  cases event with
  | queueByte octet => exact terminalQueueByte_shows octet h
  | tiles buffer => exact ⟨⟨h.valid.cursor, h.valid.row⟩, h.contents, h.droppedCount, h.screen⟩
  | select mode => exact ⟨⟨h.valid.cursor, h.valid.row⟩, h.contents, h.droppedCount, h.screen⟩
  | vBlank => exact vBlank_shows h

lemma run_shows (events : List Event) (h : Shows blank d t) :
    Shows blank (Run.run step d events)
      (Run.run (DroppingQueue.step 255 terminalRenderBudget) t (events.filterMap Event.traffic)) := by
  induction events generalizing d t with
  | nil => exact h
  | cons event events ih =>
    have hstep := ih (step_shows event h)
    cases htraffic : event.traffic with
    | none =>
      rw [htraffic] at hstep
      rw [List.filterMap_cons_none htraffic]
      exact hstep
    | some traffic =>
      rw [htraffic] at hstep
      rw [List.filterMap_cons_some htraffic]
      exact hstep

end Runs

section Reset

variable (tiles : Buffer) (d : Display)

/-- The copy of the first page, with what it starts from. -/
lemma statusInitialize_eq :
    statusInitialize tiles d = copyTiles 1024 0 { d with
      statusTileBuffer := tiles, statusRenderRow := 0, screenMode := .status
      vram := d.vram.writeAddress statusTilemapBase } := rfl

lemma reset_eq :
    reset tiles d = { terminalInitialize d with
      statusTileBuffer := tiles, statusRenderRow := 0, screenMode := .status, vram := (reset tiles d).vram } := by
  rw [reset, statusInitialize_eq]
  exact copyTiles_eq 1024 0 _

/-- The status screen is drawn at once. -/
lemma statusCells_reset (row column : Fin 32) :
    statusCells (reset tiles d).vram row column = (tiles (cell row column)).toUInt16 := by
  have hcell := cell_lt row column
  have hbase : statusTilemapBase.toNat = 0x4000 := rfl
  have hfits : statusTilemapBase.toNat + 1024 < 65536 := by
    rw [hbase]
    norm_num
  rw [statusCells, reset, statusInitialize_eq, words_copyTiles 1024 0 hfits, if_pos] <;>
    dsimp only [Vram.writeAddress] <;> rw [hbase, toNat_status]
  · rw [Nat.add_sub_cancel_left, Nat.zero_add]
  · omega

lemma reset_shows : Shows (reset tiles d).screen (reset tiles d) Traffic.none := by
  refine ⟨?_, ?_, ?_, rfl⟩ <;> rw [reset_eq]
  · exact ⟨show (0 : ℕ) < 2048 by norm_num, show (0 : ℕ) < 32 by norm_num⟩
  · exact Ring.contents_eq_nil_iff.mpr rfl
  · rfl

lemma after_shows (events : List Event) : Shows (reset tiles d).screen (after tiles d events) (trafficOf events) :=
  run_shows events (reset_shows tiles d)

/-- **The raw log** after any run from the reset on is what VBlank took from the queue, typed octet by octet; what was
queued has left in its order, taken or dropped, and the count is that of the octets that were dropped. -/
theorem raw_log_shows (events : List Event) :
    (after tiles d events).screen = (trafficOf events).taken.foldl typed (reset tiles d).screen ∧
      (after tiles d events).queue.contents = (trafficOf events).pending ∧
      (after tiles d events).droppedCount = UInt32.ofNat (trafficOf events).dropped ∧
      ∃ removed, queuedOf events = removed ++ (trafficOf events).pending ∧ (trafficOf events).taken.Sublist removed ∧
        (trafficOf events).dropped + (trafficOf events).taken.length = removed.length := by
  have hshows := after_shows tiles d events
  refine ⟨hshows.screen, hshows.contents, hshows.droppedCount, ?_⟩
  obtain ⟨removed, newlyTaken, hpushed, htaken, hsublist, hdropped⟩ :=
    conserves 255 terminalRenderBudget Traffic.none (events.filterMap Event.traffic)
  have heq : (trafficOf events).taken = newlyTaken := htaken
  rw [heq]
  exact ⟨removed, hpushed, hsublist, hdropped.trans (Nat.zero_add _)⟩

/-- **Nothing is dropped** as long as at most 32 octets are queued between two VBlanks: then the raw log has all of them
but those that are still pending. -/
theorem raw_log_keeps_pace {events : List Event}
    (hpaced : Paced terminalRenderBudget terminalRenderBudget (events.filterMap Event.traffic)) :
    (after tiles d events).droppedCount = 0 ∧ ∃ rendered,
      queuedOf events = rendered ++ (after tiles d events).queue.contents ∧
      (after tiles d events).screen = rendered.foldl typed (reset tiles d).screen := by
  have hshows := after_shows tiles d events
  obtain ⟨hdropped, hpushed⟩ := taken_of_paced 255 (by norm_num) hpaced
  refine ⟨?_, (trafficOf events).taken, ?_, hshows.screen⟩
  · rw [hshows.droppedCount, trafficOf, hdropped]
    rfl
  · rw [hshows.contents]
    exact hpushed

theorem raw_log_keeps_pace_two :
    (after (fun _ => 0x20) default [.queueByte 0x4f, .queueByte 0x4b, .vBlank]).droppedCount = 0 ∧ ∃ rendered,
      queuedOf [.queueByte 0x4f, .queueByte 0x4b, .vBlank] =
        rendered ++ (after (fun _ => 0x20) default [.queueByte 0x4f, .queueByte 0x4b, .vBlank]).queue.contents ∧
      (after (fun _ => 0x20) default [.queueByte 0x4f, .queueByte 0x4b, .vBlank]).screen =
        rendered.foldl typed (reset (fun _ => 0x20) default).screen :=
  raw_log_keeps_pace (fun _ => 0x20) default ⟨31, rfl, 30, rfl, trivial⟩

/-! ### What is visible -/

/-- How many times VBlank comes. -/
def vBlanks (events : List Event) : ℕ := events.countP fun event => event matches .vBlank

/-- A row of the status screen is what the tiles were, so many VBlanks ago as the row that is next tells. -/
lemma status_row (events : List Event) (row : Fin 32) :
    ∃ before during, events = before ++ during ∧
      vBlanks during ≤ ((after tiles d events).statusRenderRow.toNat + 31 - row) % 32 + 1 ∧
      ∀ column, statusCells (after tiles d events).vram row column =
        ((after tiles d before).statusTileBuffer (cell row column)).toUInt16 := by
  induction events using List.reverseRecOn with
  | nil =>
    refine ⟨[], [], rfl, Nat.zero_le _, fun column => ?_⟩
    rw [after, Run.run_nil, statusCells_reset, reset_eq]
  | append_singleton events event ih =>
    obtain ⟨before, during, hsplit, hcount, hcells⟩ := ih
    have hvalid := (after_shows tiles d events).valid
    have hrow := hvalid.row
    have hafter : after tiles d (events ++ [event]) = step (after tiles d events) event := Run.run_append
    rw [hafter]
    -- Nothing but VBlank draws.
    have hkept : ∀ d' : Display, d'.statusRenderRow = (after tiles d events).statusRenderRow →
        d'.vram = (after tiles d events).vram → vBlanks [event] = 0 →
        ∃ before during, events ++ [event] = before ++ during ∧
          vBlanks during ≤ (d'.statusRenderRow.toNat + 31 - row) % 32 + 1 ∧
          ∀ column, statusCells d'.vram row column =
            ((after tiles d before).statusTileBuffer (cell row column)).toUInt16 := by
      intro d' hnext hvram hnone
      refine ⟨before, during ++ [event], by rw [hsplit, List.append_assoc], ?_, ?_⟩
      · rw [hnext, vBlanks, List.countP_append]
        rw [vBlanks] at hnone hcount
        omega
      · rw [hvram]
        exact hcells
    cases event with
    | queueByte octet =>
      refine hkept _ ?_ ?_ rfl <;> unfold step terminalQueueByte <;> dsimp only <;> split_ifs <;> rfl
    | tiles buffer => exact hkept _ rfl rfl rfl
    | select mode => exact hkept _ rfl rfl rfl
    | vBlank =>
      have hblanks := vBlank_blanks hvalid
      have hnext := hblanks.row
      have hrowlt := row.isLt
      by_cases hdrawn : (row : ℕ) = (after tiles d events).statusRenderRow.toNat
      · refine ⟨events, [.vBlank], rfl, ?_, fun column => ?_⟩
        · change 1 ≤ _
          omega
        · exact (hblanks.statusCells row column).trans (if_pos hdrawn)
      · refine ⟨before, during ++ [.vBlank], by rw [hsplit, List.append_assoc], ?_, fun column => ?_⟩
        · rw [vBlanks, List.countP_append]
          change _ + 1 ≤ ((vBlank (after tiles d events)).statusRenderRow.toNat + 31 - _) % 32 + 1
          rw [vBlanks] at hcount
          omega
        · rw [← hcells]
          exact (hblanks.statusCells row column).trans (if_neg hdrawn)

/-- **A row of the status screen is never older than 32 VBlanks**, whatever happens to the raw log. -/
theorem status_row_recent (events : List Event) (row : Fin 32) :
    ∃ before during, events = before ++ during ∧ vBlanks during ≤ 32 ∧
      ∀ column, statusCells (after tiles d events).vram row column =
        ((after tiles d before).statusTileBuffer (cell row column)).toUInt16 := by
  obtain ⟨before, during, hsplit, hcount, hcells⟩ := status_row tiles d events row
  exact ⟨before, during, hsplit, by omega, hcells⟩

end Reset

section Visible

variable (d : Display)

lemma bg1_status (h : d.screenMode = .status) :
    (screenApplyVBlank d).bg1sc = statusBg1sc ∧ (screenApplyVBlank d).bg1vofs = 0xffff := by
  have hoffset : word 0xff 0xff = 0xffff := by decide
  unfold screenApplyVBlank
  rw [h]
  exact ⟨rfl, hoffset⟩

lemma bg1_rawLog (h : d.screenMode = .rawLog) :
    (screenApplyVBlank d).bg1sc = terminalBg1sc ∧ (screenApplyVBlank d).bg1vofs = d.verticalScroll := by
  unfold screenApplyVBlank
  rw [h]
  exact ⟨rfl, word_high_low _⟩

/-- The scroll is that of the row of the cursor. -/
lemma toNat_verticalScroll {d : Display} (h : d.cursor.toNat < 2048) :
    (terminalRenderVBlank d).verticalScroll.toNat =
      (8 * ((terminalRenderVBlank d).cursor.toNat / 32) + 65536 - 0xd9) % 65536 := by
  have hcursor := (terminalRenderVBlank_draws h).2.cursor
  have hrow := toNat_and_row hcursor
  have hscroll : (((terminalRenderVBlank d).cursor &&& terminalRowMask) >>> 2).toNat =
      8 * ((terminalRenderVBlank d).cursor.toNat / 32) := by
    rw [UInt16.toNat_shiftRight, hrow]
    change _ >>> 2 = _
    rw [Nat.shiftRight_eq_div_pow]
    omega
  have hanchor : terminalScrollAnchor.toNat = 0xd9 := rfl
  have hdef : (terminalRenderVBlank d).verticalScroll =
      (((terminalRenderVBlank d).cursor &&& terminalRowMask) >>> 2) - terminalScrollAnchor := by
    simp only [terminalRenderVBlank]
  rw [hdef, UInt16.toNat_sub, hscroll, hanchor]
  omega

end Visible

/-- **What is visible** behind VBlank: of the raw log, typed from what was taken, the row of the cursor at the bottom and
the rows above it; of the status screen the rows from the first on. -/
theorem visible_after (tiles : Buffer) (d : Display) (events : List Event) (y : Fin 224) (column : Fin 32) :
    visible (after tiles d (events ++ [.vBlank])) (y + 1) column =
      match (after tiles d events).screenMode with
      | .rawLog =>
        (after tiles d (events ++ [.vBlank])).screen.cells
          (Fin.ofNat 64 ((after tiles d (events ++ [.vBlank])).screen.row + 37 + y / 8)) column
      | .status => statusCells (after tiles d (events ++ [.vBlank])).vram (Fin.ofNat 32 (y / 8)) column := by
  have hvalid := (after_shows tiles d events).valid
  have hafter : after tiles d (events ++ [.vBlank]) = vBlank (after tiles d events) := Run.run_append
  rw [hafter]
  generalize after tiles d events = d at hvalid ⊢
  obtain ⟨-, hdraws⟩ := terminalRenderVBlank_draws hvalid.cursor
  have hcursor := hdraws.cursor
  have hmode : (statusRenderVBlank (terminalRenderVBlank d)).screenMode = d.screenMode := by
    rw [statusRenderVBlank_eq]
    exact hdraws.screenMode
  have hscroll := toNat_verticalScroll hvalid.cursor
  have hkept : (statusRenderVBlank (terminalRenderVBlank d)).verticalScroll = (terminalRenderVBlank d).verticalScroll := by
    rw [statusRenderVBlank_eq]
  have hvram : (vBlank d).vram = (statusRenderVBlank (terminalRenderVBlank d)).vram := by
    rw [vBlank, screenApplyVBlank_eq]
  have hrow : ((vBlank d).screen.row : ℕ) = (terminalRenderVBlank d).cursor.toNat / 32 := by
    have hsame : (vBlank d).cursor = (terminalRenderVBlank d).cursor := by
      rw [vBlank, screenApplyVBlank_eq, statusRenderVBlank_eq]
    rw [screen, hsame, Fin.val_ofNat]
    omega
  have hy := y.isLt
  unfold visible
  rw [hrow]
  cases hmodeIs : d.screenMode with
  | status =>
    obtain ⟨hbase, hoffset⟩ := bg1_status (statusRenderVBlank (terminalRenderVBlank d)) (hmode.trans hmodeIs)
    have hmap : ((statusBg1sc >>> 2).toUInt16 <<< 10 : UInt16) = statusTilemapBase := by decide
    have hoffsetNat : (0xffff : UInt16).toNat = 65535 := rfl
    have hline : (65535 + ((y : ℕ) + 1)) % 512 / 8 = y / 8 := by omega
    have hcell : ((Fin.ofNat 32 (y / 8) : Fin 32) : ℕ) = y / 8 := by
      rw [Fin.val_ofNat]
      omega
    rw [vBlank, hbase, hoffset, hmap, hoffsetNat, hline, statusCells, cell, hcell]
  | rawLog =>
    obtain ⟨hbase, hoffset⟩ := bg1_rawLog (statusRenderVBlank (terminalRenderVBlank d)) (hmode.trans hmodeIs)
    have hmap : ((terminalBg1sc >>> 2).toUInt16 <<< 10 : UInt16) = terminalTilemapBase := by decide
    have hcell : ((Fin.ofNat 64 ((terminalRenderVBlank d).cursor.toNat / 32 + 37 + y / 8) : Fin 64) : ℕ) =
        ((8 * ((terminalRenderVBlank d).cursor.toNat / 32) + 65536 - 0xd9) % 65536 + (y + 1)) % 512 / 8 := by
      rw [Fin.val_ofNat]
      omega
    rw [vBlank, hbase, hoffset, hmap, hkept, hscroll]
    change _ = rawLogCells _ _ _
    rw [rawLogCells, cell, hcell]

end Display

end SnesModem.Asm
