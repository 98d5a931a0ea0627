import SqlMapper.Proofs.Field.Integers
import SqlMapper.Proofs.MySql.Connection
import SqlMapper.Proofs.MySql.RoundTrip

/-! Whole numbers in columns of whole numbers. A column takes its numbers as signed ones whether or
not it is declared so. The upper half of an unsigned type does not come through, and one number of
it costs the whole result. -/

namespace SqlMapper

/-- Every type that has the number decodes the value to it. -/
def SqlValue.Denotes (x : SqlValue) (n : Int) : Prop :=
  ∀ (b : BaseType) (least greatest : Int), b.integerRange? = some (least, greatest) →
    least ≤ n ∧ n ≤ greatest → ∃ v, b.ofSql x = .ok v ∧ b.number? v = some n

theorem SqlValue.denotes_of_toInteger {x : SqlValue} {n : Int}
    (hx : ∀ target, x.toInteger target = .ok n) : x.Denotes n := by
  intro b least greatest hb hn
  obtain ⟨f, -, hf⟩ := BaseType.exists_ofInteger hb
  have hconverts := BaseType.converts_of_toInteger hb (hx b.name)
  generalize b.ofSql x = r at hconverts ⊢
  cases hconverts with
  | held h => exact ⟨_, rfl, h⟩
  | overflows h => exact absurd (hf n hn) (h (f n))

namespace MySql

/-- The number of a value that the server sent as one, signed or unsigned. -/
def Wire.number? : Wire → Option Int
  | .int n => some n.toInt
  | .uint n => some n.toNat
  | _ => none

namespace ColumnType

/-- The size of the numbers of a column. -/
def bits? : ColumnType → Option Nat
  | .tiny => some 8
  | .short => some 16
  | .int24 => some 24
  | .long => some 32
  | .longLong => some 64
  | _ => none

/-- The numbers that a column can hold as it was declared. -/
def Holds (t : ColumnType) (unsigned : Bool) (n : Int) : Prop :=
  ∃ bits, t.bits? = some bits ∧
    if unsigned then 0 ≤ n ∧ n < 2 ^ bits else -2 ^ (bits - 1) ≤ n ∧ n < 2 ^ (bits - 1)

/-- The upper half of an unsigned type. Numbers of 24 bits are taken as ones of 32 bits, where there
is room for all of them. -/
def Loses (t : ColumnType) (n : Int) : Prop :=
  t ≠ .int24 ∧ ∃ bits, t.bits? = some bits ∧ 2 ^ (bits - 1) ≤ n

theorem unsigned_of_loses {t : ColumnType} {unsigned : Bool} {n : Int} (h : t.Holds unsigned n)
    (hn : t.Loses n) : unsigned = true := by
  obtain ⟨bits, hbits, hrange⟩ := h
  obtain ⟨-, bits', hbits', hge⟩ := hn
  obtain rfl : bits = bits' := Option.some.inj (hbits.symm.trans hbits')
  cases unsigned with
  | true => rfl
  | false =>
    have hlt : n < 2 ^ (bits - 1) := hrange.2
    omega

/-- The size of the signed numbers that a column takes, and the value of one of them. -/
def reading? : ColumnType → Option (Nat × (Int → SqlValue))
  | .tiny => some (8, fun n => .tinyint (Int8.ofInt n))
  | .short => some (16, fun n => .smallint (Int16.ofInt n))
  | .int24 | .long => some (32, fun n => .int (Int32.ofInt n))
  | .longLong => some (64, fun n => .bigint (Int64.ofInt n))
  | _ => none

theorem exists_reading {t : ColumnType} {unsigned : Bool} {n : Int} (h : t.Holds unsigned n) :
    ∃ bits take, t.reading? = some (bits, take) ∧
      (¬t.Loses n ↔ -2 ^ (bits - 1) ≤ n ∧ n < 2 ^ (bits - 1)) := by
  obtain ⟨bits, hbits, hrange⟩ := h
  cases t with
  | tiny | short | int24 | long | longLong =>
    obtain rfl := Option.some.inj hbits
    refine ⟨_, _, rfl, ?_⟩
    simp only [Loses, bits?]
    cases unsigned <;> simp at hrange <;> simp <;> omega
  | _ => simp [bits?] at hbits

theorem denotes_reading {t : ColumnType} {bits : Nat} {take : Int → SqlValue}
    (ht : t.reading? = some (bits, take)) {n : Int}
    (hn : -2 ^ (bits - 1) ≤ n ∧ n < 2 ^ (bits - 1)) : (take n).Denotes n := by
  refine SqlValue.denotes_of_toInteger fun target => ?_
  cases t with
  | tiny =>
    obtain ⟨rfl, rfl⟩ := Prod.mk.inj (Option.some.inj ht)
    exact congrArg Except.ok (Int8.toInt_ofInt_of_le hn.1 hn.2)
  | short =>
    obtain ⟨rfl, rfl⟩ := Prod.mk.inj (Option.some.inj ht)
    exact congrArg Except.ok (Int16.toInt_ofInt_of_le hn.1 hn.2)
  | int24 | long =>
    obtain ⟨rfl, rfl⟩ := Prod.mk.inj (Option.some.inj ht)
    exact congrArg Except.ok (Int32.toInt_ofInt_of_le hn.1 hn.2)
  | longLong =>
    obtain ⟨rfl, rfl⟩ := Prod.mk.inj (Option.some.inj ht)
    exact congrArg Except.ok (Int64.toInt_ofInt_of_le hn.1 hn.2)
  | _ => simp [reading?] at ht

theorem require_number {w : Wire} {n : Int} (hw : w.number? = some n) (least greatest : Int)
    (take : Int → SqlValue) :
    require (w.toInteger? least greatest) take =
      if least ≤ n ∧ n ≤ greatest then .ok (take n) else .error unconvertible := by
  cases w with
  | int m | uint m =>
    obtain rfl := Option.some.inj hw
    rw [Wire.toInteger?, Option.filter_some]
    split <;> simp_all [require]
  | _ => simp [Wire.number?] at hw

theorem toSql_of_number {t : ColumnType} {bits : Nat} {take : Int → SqlValue}
    (ht : t.reading? = some (bits, take)) {w : Wire} {n : Int} (hw : w.number? = some n) :
    t.toSql w =
      if -2 ^ (bits - 1) ≤ n ∧ n < 2 ^ (bits - 1) then .ok (take n) else .error unconvertible := by
  have hne : w ≠ .null := by
    rintro rfl
    simp [Wire.number?] at hw
  cases t with
  | tiny | short | int24 | long | longLong =>
    obtain ⟨rfl, rfl⟩ := Prod.mk.inj (Option.some.inj ht)
    rw [toSql, if_neg hne]
    refine (require_number hw _ _ _).trans (if_congr ?_ rfl rfl)
    constructor <;> rintro ⟨hle, hge⟩ <;> constructor <;> omega
  | _ => simp [reading?] at ht

/-- A number that its column can hold is taken exactly, or not at all if its column loses it. -/
theorem toSql_of_holds {t : ColumnType} {unsigned : Bool} {n : Int} {w : Wire}
    (h : t.Holds unsigned n) (hw : w.number? = some n) :
    (¬t.Loses n → ∃ x, t.toSql w = .ok x ∧ x.Denotes n) ∧
    (t.Loses n → unsigned = true ∧ t.toSql w = .error unconvertible) := by
  obtain ⟨bits, take, hreading, hloses⟩ := exists_reading h
  have htaken := toSql_of_number hreading hw
  constructor
  · intro hn
    have hrange := hloses.mp hn
    rw [if_pos hrange] at htaken
    exact ⟨take n, htaken, denotes_reading hreading hrange⟩
  · intro hn
    have hrange : ¬(-2 ^ (bits - 1) ≤ n ∧ n < 2 ^ (bits - 1)) := fun hr => hloses.mpr hr hn
    rw [if_neg hrange] at htaken
    exact ⟨unsigned_of_loses h hn, htaken⟩

end ColumnType

namespace Reply

/-- A column of a result and what the server sent for it. -/
abbrev Cell := (String × ColumnType) × Wire

namespace Cell

def Converts (cell : Cell) : Prop := ∃ x, cell.1.2.toSql cell.2 = .ok x

/-- The cell holds a number as its column is declared. -/
def IsNumber (cell : Cell) (n : Int) : Prop :=
  cell.2.number? = some n ∧ ∃ unsigned, cell.1.2.Holds unsigned n

def IsLost (cell : Cell) : Prop := ∃ n, cell.IsNumber n ∧ cell.1.2.Loses n

theorem exists_denotes {cell : Cell} {n : Int} (h : cell.IsNumber n) (hl : ¬cell.IsLost) :
    ∃ x, cell.1.2.toSql cell.2 = .ok x ∧ x.Denotes n := by
  obtain ⟨hn, unsigned, hholds⟩ := h
  exact (ColumnType.toSql_of_holds hholds hn).1 fun hloses => hl ⟨n, ⟨hn, unsigned, hholds⟩, hloses⟩

theorem toSql_of_isLost {cell : Cell} (h : cell.IsLost) :
    cell.1.2.toSql cell.2 = .error ColumnType.unconvertible := by
  obtain ⟨n, ⟨hn, unsigned, hholds⟩, hloses⟩ := h
  exact ((ColumnType.toSql_of_holds hholds hn).2 hloses).2

theorem converts_or_isLost {cell : Cell} (h : cell.Converts ∨ ∃ n, cell.IsNumber n) :
    cell.Converts ∨ cell.IsLost := by
  obtain hconverts | ⟨n, hn⟩ := h
  · exact .inl hconverts
  · by_cases hl : cell.IsLost
    · exact .inr hl
    · obtain ⟨x, hx, -⟩ := exists_denotes hn hl
      exact .inl ⟨x, hx⟩

end Cell

/-- The cells of a result, row by row. -/
def cells (r : Reply) : List Cell := r.rows.flatMap fun wires => r.columns.zip wires

/-- A row has the exact number of each of its cells under the name of the column. -/
def Reads (columns : List (String × ColumnType)) (wires : List Wire) (row : Row) : Prop :=
  ∀ cell ∈ columns.zip wires, ∀ n, Cell.IsNumber cell n →
    ∃ x, row.get? cell.1.1 = some x ∧ x.Denotes n

section Row

variable {columns : List (String × ColumnType)} {wires : List Wire}

theorem toCell_eq_ok {cell : Cell} {x : SqlValue} (h : cell.1.2.toSql cell.2 = .ok x) :
    toCell cell.1 cell.2 = .ok (cell.1.1, x) := by
  rw [toCell, h, map_ok]

theorem exists_toRow (h : ∀ cell ∈ columns.zip wires, Cell.Converts cell) :
    ∃ row, toRow columns wires = .ok row := by
  obtain ⟨values, hvalues⟩ := exists_mapM_eq_ok fun cell hcell =>
    let ⟨x, hx⟩ := h cell hcell
    ⟨(cell.1.1, x), toCell_eq_ok hx⟩
  exact ⟨Row.ofList values, by rw [toRow, hvalues, map_ok]⟩

theorem names_sublist (columns : List (String × ColumnType)) (wires : List Wire) :
    ((columns.zip wires).map fun cell => cell.1.1).Sublist (columns.map Prod.fst) := by
  induction columns generalizing wires with
  | nil => exact .slnil
  | cons column columns ih =>
    cases wires with
    | nil => exact List.nil_sublist _
    | cons w wires => exact (ih wires).cons_cons column.1

theorem get?_ofList_of_mem {values : List (String × SqlValue)} (h : (values.map Prod.fst).Nodup)
    {v : String × SqlValue} (hv : v ∈ values) : (Row.ofList values).get? v.1 = some v.2 := by
  rw [Row.get?, Row.ofList, OrderedMap.get?_ofList h]
  obtain ⟨before, after, rfl⟩ := List.append_of_mem hv
  rw [List.map_append, List.map_cons] at h
  obtain ⟨-, -, hne⟩ := List.nodup_append.mp h
  refine List.lookup_eq_some_iff.mpr ⟨before, after, rfl, fun p hp => bne_iff_ne.mpr ?_⟩
  exact (hne p.1 (List.mem_map_of_mem hp) v.1 List.mem_cons_self).symm

theorem get?_toRow {row : Row} (hnames : (columns.map Prod.fst).Nodup)
    (hrow : toRow columns wires = .ok row) {cell : Cell} (hcell : cell ∈ columns.zip wires)
    {x : SqlValue} (hx : cell.1.2.toSql cell.2 = .ok x) : row.get? cell.1.1 = some x := by
  obtain ⟨values, hvalues, rfl⟩ := exists_of_map_eq_ok hrow
  have hname (c : Cell) (v : String × SqlValue) (hv : toCell c.1 c.2 = .ok v) : c.1.1 = v.1 := by
    obtain ⟨y, -, rfl⟩ := exists_of_map_eq_ok hv
    rfl
  have hsame : (columns.zip wires).map (fun c => c.1.1) = values.map Prod.fst := by
    rw [← List.forall₂_eq_eq_eq, List.forall₂_map_left_iff, List.forall₂_map_right_iff]
    exact (forall₂_of_mapM_eq_ok hvalues).imp hname
  have hnodup : (values.map Prod.fst).Nodup := hsame ▸ hnames.sublist (names_sublist columns wires)
  obtain ⟨v, hv, hxv⟩ := exists_mem_of_mapM_eq_ok hvalues hcell
  obtain rfl : (cell.1.1, x) = v := Except.ok.inj ((toCell_eq_ok hx).symm.trans hxv)
  exact get?_ofList_of_mem hnodup hv

theorem eq_unconvertible_of_toCell {cell : Cell} (h : cell.Converts ∨ cell.IsLost) {e : DataError}
    (he : toCell cell.1 cell.2 = .error e) : e = ColumnType.unconvertible := by
  have hcell : cell.1.2.toSql cell.2 = .error e := eq_error_of_map_eq_error he
  obtain ⟨x, hx⟩ | hl := h
  · cases hx.symm.trans hcell
  · exact Except.error.inj (hcell.symm.trans (Cell.toSql_of_isLost hl))

theorem eq_unconvertible_of_toRow
    (h : ∀ cell ∈ columns.zip wires, Cell.Converts cell ∨ Cell.IsLost cell) {e : DataError}
    (he : toRow columns wires = .error e) : e = ColumnType.unconvertible := by
  obtain ⟨cell, hcell, hce⟩ := exists_of_mapM_eq_error (eq_error_of_map_eq_error he)
  exact eq_unconvertible_of_toCell (h cell hcell) hce

theorem toRow_of_isLost (h : ∀ cell ∈ columns.zip wires, Cell.Converts cell ∨ Cell.IsLost cell)
    {cell : Cell} (hcell : cell ∈ columns.zip wires) (hl : cell.IsLost) :
    toRow columns wires = .error ColumnType.unconvertible := by
  have herror : toCell cell.1 cell.2 = .error ColumnType.unconvertible := by
    rw [toCell, Cell.toSql_of_isLost hl]
    rfl
  have hvalues := mapM_eq_error hcell herror fun c hc e he => eq_unconvertible_of_toCell (h c hc) he
  rw [toRow, hvalues]
  rfl

end Row

variable {r : Reply}

theorem mem_cells {wires : List Wire} (hw : wires ∈ r.rows) {cell : Cell}
    (hcell : cell ∈ r.columns.zip wires) : cell ∈ r.cells :=
  List.mem_flatMap.mpr ⟨wires, hw, hcell⟩

theorem toRows_of_isLost (h : ∀ cell ∈ r.cells, cell.Converts ∨ cell.IsLost) {cell : Cell}
    (hcell : cell ∈ r.cells) (hl : cell.IsLost) :
    r.toRows = .error ColumnType.unconvertible := by
  obtain ⟨wires, hw, hcell⟩ := List.mem_flatMap.mp hcell
  have hrow (ws : List Wire) (hws : ws ∈ r.rows) :
      ∀ c ∈ r.columns.zip ws, Cell.Converts c ∨ Cell.IsLost c :=
    fun c hc => h c (mem_cells hws hc)
  exact mapM_eq_error hw (toRow_of_isLost (hrow wires hw) hcell hl) fun ws hws e he =>
    eq_unconvertible_of_toRow (hrow ws hws) he

theorem exists_toRows (h : ∀ cell ∈ r.cells, cell.Converts)
    (hl : ∀ cell ∈ r.cells, ¬cell.IsLost) :
    ∃ rows, r.toRows = .ok rows ∧
      ((r.columns.map Prod.fst).Nodup → List.Forall₂ (Reads r.columns) r.rows rows) := by
  obtain ⟨rows, hrows⟩ := exists_mapM_eq_ok fun wires hw =>
    exists_toRow fun cell hcell => h cell (mem_cells hw hcell)
  refine ⟨rows, hrows, fun hnames => ?_⟩
  obtain ⟨hlength, hrow⟩ := List.forall₂_iff_get.mp (forall₂_of_mapM_eq_ok hrows)
  refine List.forall₂_iff_get.mpr ⟨hlength, fun i hi hi' cell hcell n hn => ?_⟩
  have hmem := mem_cells (List.get_mem r.rows ⟨i, hi⟩) hcell
  obtain ⟨x, hx, hxn⟩ := Cell.exists_denotes hn (hl cell hmem)
  exact ⟨x, get?_toRow hnames (hrow i hi hi') hcell hx, hxn⟩

end Reply

theorem Call.onChannel_query {s : Statement} {ch ch' : Channel} {r : Reply} {server : Server}
    (hs : (handOver s).onChannel ch = (.ok (), ch')) (hr : ch'.server.nextReply = (r, server)) :
    (query s).onChannel ch = (r.toRows.mapError .data, ⟨ch'.connection, server⟩) := by
  have htake : takeReply.onChannel ch' = (.ok r, ⟨ch'.connection, server⟩) := by
    change (Except.ok ch'.server.nextReply.1,
      ({ ch' with server := ch'.server.nextReply.2 } : Channel)) = _
    rw [hr]
  rw [query, onChannel_bind, hs]
  simp only [onChannel_bind, htake]
  cases r.toRows <;> rfl

/-- A number that its column was declared for is taken exactly, unless the column loses it. Where the
server has taken a statement and all cells of its answer convert or hold such numbers, the answer
comes through with every number as it is, unless there is a lost one among them: then there is no
row of it at all. -/
theorem integer_columns_read (s : Statement) (ch ch' : Channel) (r : Reply) (server : Server) :
    (∀ (t : ColumnType) (unsigned : Bool) (n : Int) (w : Wire), t.Holds unsigned n →
      w.number? = some n →
      (¬t.Loses n → ∃ x, t.toSql w = .ok x ∧ x.Denotes n) ∧
      (t.Loses n → unsigned = true ∧ t.toSql w = .error ColumnType.unconvertible)) ∧
    ((Call.handOver s).onChannel ch = (.ok (), ch') → ch'.server.nextReply = (r, server) →
      (∀ cell ∈ r.cells, cell.Converts ∨ ∃ n, cell.IsNumber n) →
      ((∀ cell ∈ r.cells, ¬cell.IsLost) → ∃ rows,
        (Call.query s).onChannel ch = (.ok rows, ⟨ch'.connection, server⟩) ∧
        ((r.columns.map Prod.fst).Nodup → List.Forall₂ (Reply.Reads r.columns) r.rows rows)) ∧
      ((∃ cell ∈ r.cells, cell.IsLost) →
        (Call.query s).onChannel ch =
          (.error (.data ColumnType.unconvertible), ⟨ch'.connection, server⟩))) := by
  refine ⟨fun t unsigned n w => ColumnType.toSql_of_holds, ?_⟩
  intro hs hr hcells
  have hquery := Call.onChannel_query hs hr
  have hcases (cell : Reply.Cell) (hcell : cell ∈ r.cells) : cell.Converts ∨ cell.IsLost :=
    Reply.Cell.converts_or_isLost (hcells cell hcell)
  constructor
  · intro hl
    obtain ⟨rows, hrows, hreads⟩ :=
      Reply.exists_toRows (fun cell hcell => (hcases cell hcell).resolve_right (hl cell hcell)) hl
    rw [hrows] at hquery
    exact ⟨rows, hquery, hreads⟩
  · rintro ⟨cell, hcell, hl⟩
    rw [Reply.toRows_of_isLost hcases hcell hl] at hquery
    exact hquery

/-- A result of one row with one unsigned number. -/
def level (n : UInt64) : Reply := ⟨[("level", .tiny)], [[.uint n]]⟩

def levelOf : Statement := ⟨"SELECT level FROM t_user WHERE id = ?", [.bigint 7]⟩

def Channel.replying (r : Reply) : Channel := ⟨.fresh, ⟨[r], [], [], []⟩⟩

theorem isNumber_level {n : UInt64} (h : n.toNat < 256) :
    ∀ cell ∈ (level n).cells, cell.IsNumber n.toNat :=
  List.forall_mem_singleton.mpr ⟨rfl, true, 8, rfl, by omega, by omega⟩

theorem integer_columns_read_level :
    (∃ x, ColumnType.tiny.toSql (.uint 127) = .ok x ∧ x.Denotes 127) ∧
    (∃ rows, ((Call.query levelOf).onChannel (.replying (level 127))).1 = .ok rows) ∧
    ((Call.query levelOf).onChannel (.replying (level 128))).1 =
      .error (.data ColumnType.unconvertible) := by
  let ch (n : UInt64) := ((Call.handOver levelOf).onChannel (.replying (level n))).2
  have hs (n : UInt64) :
      (Call.handOver levelOf).onChannel (.replying (level n)) = (.ok (), ch n) := rfl
  have hr (n : UInt64) :
      (ch n).server.nextReply = (level n, { (ch n).server with replies := [] }) := rfl
  have hread (n : UInt64) :=
    integer_columns_read levelOf (.replying (level n)) (ch n) (level n)
      { (ch n).server with replies := [] }
  have hquery (n : UInt64) (hn : n.toNat < 256) :=
    (hread n).2 (hs n) (hr n) fun cell hcell => .inr ⟨n.toNat, isNumber_level hn cell hcell⟩
  have hkept : ¬ColumnType.tiny.Loses 127 := by
    rintro ⟨-, bits, hbits, hge⟩
    obtain rfl := Option.some.inj hbits
    exact absurd hge (by decide)
  refine ⟨((hread 127).1 .tiny true 127 (.uint 127) ⟨8, rfl, by decide⟩ rfl).1 hkept, ?_, ?_⟩
  · have hcells : ∀ cell ∈ (level 127).cells, ¬cell.IsLost := by
      refine List.forall_mem_singleton.mpr ?_
      rintro ⟨n, ⟨hn, -⟩, hl⟩
      obtain rfl : 127 = n := Option.some.inj hn
      exact hkept hl
    obtain ⟨rows, hrows, -⟩ := (hquery 127 (by decide)).1 hcells
    exact ⟨rows, congrArg Prod.fst hrows⟩
  · have hlost : ColumnType.tiny.Loses 128 := ⟨nofun, 8, rfl, by decide⟩
    have hcell : ∃ cell ∈ (level 128).cells, cell.IsLost :=
      ⟨_, List.mem_singleton_self _, 128, isNumber_level (by decide) _ (List.mem_singleton_self _),
        hlost⟩
    exact congrArg Prod.fst ((hquery 128 (by decide)).2 hcell)

/-- A number that the column can hold and that the server sends as such. -/
theorem toSql_tiny_twoHundred :
    ColumnType.tiny.Holds true 200 ∧ (Wire.uint 200).number? = some 200 ∧
    ¬∃ x, ColumnType.tiny.toSql (.uint 200) = .ok x ∧ x.Denotes 200 := by
  refine ⟨⟨8, rfl, by decide⟩, rfl, ?_⟩
  rintro ⟨x, hx, -⟩
  cases hx

end MySql

end SqlMapper
