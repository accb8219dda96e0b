import DbFree.KeyedRows

/- What a sync script does to keys beyond the row cap: a page loop reads the first
rows of each side, and a row of one side counts as missing from the other when it
is not among the rows read there. -/
namespace DbFree.RowCompare

open SqlText

/-- A table: its rows in the order each sort brings them in. -/
structure Table where
  header : List Text
  ordered : List SortRule → List (List Value)
  sameRows : ∀ sort other, (ordered sort).Perm (ordered other)

/-- The adapter answers a page with that window of the table's rows, or fails. -/
def Serves (ctx : SessionCtx) (table : TableRef) (data : Table) : Prop :=
  ∀ query page, ctx.fetchPage table query = .ok page →
    page.columns = data.header ∧
      page.rows = ((data.ordered query.sort).drop query.offset).take query.limit

/-- All rows of a table in key order, cut to the wanted columns. -/
def Table.cutRows (data : Table) (crates : Crates) (sort wanted : List Text) :
    List (List Value) :=
  (data.ordered (ascending sort)).map (cut crates wanted data.header)

theorem readPages_reads (crates : Crates) (ctx : SessionCtx) (table : TableRef) (data : Table)
    (serves : Serves ctx table data) (sort wanted : List Text) (ceiling turns offset : Nat)
    (room : ceiling - offset ≤ turns) (within : offset ≤ ceiling)
    (reached : offset ≤ (data.cutRows crates sort wanted).length) (rows : List (List Value))
    (read : readPages crates (ctx.fetchPage table) (ascending sort) wanted ceiling turns
      ((data.cutRows crates sort wanted).take offset) offset = .ok rows) :
    rows = (data.cutRows crates sort wanted).take ceiling := by
  induction turns generalizing offset with
  | zero =>
    cases read
    rw [show offset = ceiling by omega]
  | succ turns ih =>
    have sofar : ((data.cutRows crates sort wanted).take offset).length = offset :=
      List.length_take_of_le reached
    rw [readPages, sofar] at read
    by_cases full : min (ceiling - offset) maxPageLimit = 0
    · simp only [full, if_true] at read
      cases read
      have limit : maxPageLimit = 1000 := rfl
      rw [show offset = ceiling by omega]
    · simp only [full, if_false] at read
      split at read
      · cases read
      · rename_i page answered
        obtain ⟨header, window⟩ := serves _ _ answered
        -- The rows read so far and this page are together a longer prefix.
        have extended : (data.cutRows crates sort wanted).take offset ++
            page.rows.map (cut crates wanted page.columns) =
            (data.cutRows crates sort wanted).take
              (offset + min (ceiling - offset) maxPageLimit) := by
          rw [header, window, List.map_take, List.map_drop, List.take_add]
          rfl
        have count : page.rows.length = min (min (ceiling - offset) maxPageLimit)
            ((data.cutRows crates sort wanted).length - offset) := by
          rw [window, List.length_take, List.length_drop, Table.cutRows, List.length_map]
        rw [extended] at read
        split at read
        · cases read
          rename_i short
          rw [List.take_of_length_le, List.take_of_length_le]
          · omega
          · omega
        · rename_i whole
          have next : page.rows.length = min (ceiling - offset) maxPageLimit := by omega
          rw [next] at read
          apply ih (offset + min (ceiling - offset) maxPageLimit) _ _ _ read
          · omega
          · omega
          · omega

theorem readSide_reads (crates : Crates) (ctx : SessionCtx) (table : TableRef) (data : Table)
    (serves : Serves ctx table data) (sort wanted : List Text) (maxRows : UInt64)
    (rows : List (List Value)) (capped : Bool)
    (read : readSide crates ctx table sort wanted maxRows = .ok (rows, capped)) :
    rows = (data.cutRows crates sort wanted).take maxRows.toNat := by
  rw [readSide] at read
  split at read
  · cases read
  · rename_i all answered
    cases read
    have prefixRead := readPages_reads crates ctx table data serves sort wanted
      (min (maxRows.toNat + 1) usizeMax) (min (maxRows.toNat + 1) usizeMax) 0
      (Nat.le_refl _) (Nat.zero_le _) (Nat.zero_le _) all answered
    have bound := maxRows.toNat_lt
    have most : usizeMax = 2 ^ 64 - 1 := rfl
    rw [prefixRead, List.take_take]
    congr 1
    omega

/-- The canonical key of a row cut to the compared columns. -/
def rowKey (crates : Crates) (keyIndex : List Nat) (values : List Value) : Key :=
  canonicalKey crates (keyedRow keyIndex values)

/-- The canonical keys of all rows of a table, in key order. -/
def Table.keys (data : Table) (crates : Crates) (sort wanted : List Text)
    (keyIndex : List Nat) : List Key :=
  (data.cutRows crates sort wanted).map (rowKey crates keyIndex)

/-- The script deletes no row whose key the source has, and inserts none whose key
the target has. -/
def Respects (crates : Crates) (direction : CompareDirection) (keyIndex : List Nat)
    (leftKeys rightKeys : List Key) (rows : List RowDiff) : Prop :=
  let sourceKeys := if direction.leftIsSource then leftKeys else rightKeys
  let targetKeys := if direction.leftIsSource then rightKeys else leftKeys
  (∀ gone ∈ deletedRows direction rows, rowKey crates keyIndex gone ∉ sourceKeys) ∧
    ∀ added ∈ insertedRows direction rows, rowKey crates keyIndex added ∉ targetKeys

instance (crates : Crates) (direction : CompareDirection) (keyIndex : List Nat)
    (leftKeys rightKeys : List Key) (rows : List RowDiff) :
    Decidable (Respects crates direction keyIndex leftKeys rightKeys rows) :=
  inferInstanceAs (Decidable (_ ∧ _))

/-- A key that is read of the first side, and that the second side has, is read of
the second side. -/
def ReadToo (maxRows : Nat) (first second : List Key) : Prop :=
  ∀ key ∈ first.take maxRows, key ∈ second → key ∈ second.take maxRows

instance (maxRows : Nat) (first second : List Key) : Decidable (ReadToo maxRows first second) :=
  inferInstanceAs (Decidable (∀ key ∈ _, _))

variable (crates : Crates) (keyIndex : List Nat)

theorem keys_keyed (rows : List (List Value)) :
    (keyed keyIndex rows).map (canonicalKey crates) = rows.map (rowKey crates keyIndex) := by
  rw [keyed, List.map_map]
  rfl

/-- The rows of one side whose keys the other side's rows lack, by their keys. -/
theorem lacking_iff (rows others : List (List Value)) (avoids : Key → Prop) :
    (∀ values, (∃ key row, (filed crates (keyed keyIndex rows))[key]? = some row ∧
        key ∉ (keyed keyIndex others).map (canonicalKey crates) ∧ row.values = values) →
        avoids (rowKey crates keyIndex values)) ↔
      ∀ key ∈ rows.map (rowKey crates keyIndex),
        key ∉ others.map (rowKey crates keyIndex) → avoids key := by
  rw [keys_keyed]
  constructor
  · intro every key member absent
    rw [← keys_keyed, ← mem_filed, Std.TreeMap.mem_iff_isSome_getElem?,
      Option.isSome_iff_exists] at member
    obtain ⟨row, found⟩ := member
    obtain ⟨same, read⟩ := of_filed crates _ key row found
    obtain ⟨values, -, rfl⟩ := List.mem_map.mp read
    rw [← same]
    exact every values ⟨key, _, found, absent, rfl⟩
  · rintro every values ⟨key, row, found, absent, rfl⟩
    obtain ⟨same, read⟩ := of_filed crates _ key row found
    have filed := List.mem_map_of_mem (f := canonicalKey crates) read
    obtain ⟨values, -, rfl⟩ := List.mem_map.mp read
    have avoided := every _ (keys_keyed crates keyIndex rows ▸ filed)
    rw [same] at avoided
    show avoids (canonicalKey crates (keyedRow keyIndex values))
    rw [same]
    exact avoided absent

theorem deletedRows_eq (direction : CompareDirection) (rows : List RowDiff) :
    deletedRows direction rows =
      if direction.leftIsSource then onlyRightRows rows else onlyLeftRows rows := by
  cases direction
  all_goals
    apply congrArg fun pick => List.filterMap pick rows
    funext row
    obtain ⟨_, _, left, right, _⟩ := row
    cases left <;> cases right <;> rfl

theorem insertedRows_eq (direction : CompareDirection) (rows : List RowDiff) :
    insertedRows direction rows =
      if direction.leftIsSource then onlyLeftRows rows else onlyRightRows rows := by
  cases direction
  all_goals
    apply congrArg fun pick => List.filterMap pick rows
    funext row
    obtain ⟨_, _, left, right, _⟩ := row
    cases left <;> cases right <;> rfl

/-- Whichever side is the source, the rows of one side only are what is deleted and
inserted. -/
theorem respects_iff (direction : CompareDirection) (leftKeys rightKeys : List Key)
    (rows : List RowDiff) :
    Respects crates direction keyIndex leftKeys rightKeys rows ↔
      (∀ values ∈ onlyLeftRows rows, rowKey crates keyIndex values ∉ rightKeys) ∧
        ∀ values ∈ onlyRightRows rows, rowKey crates keyIndex values ∉ leftKeys := by
  rw [Respects, deletedRows_eq, insertedRows_eq]
  cases direction with
  | leftToRight => exact and_comm
  | rightToLeft => exact Iff.rfl

/-- With the first rows of each table read, the script respects the tables exactly
when keys that both have are read of both or of neither. -/
theorem capped_respects_iff (direction : CompareDirection) (columns : List Text)
    (maxRows : Nat) (left right : List (List Value)) :
    Respects crates direction keyIndex (left.map (rowKey crates keyIndex))
        (right.map (rowKey crates keyIndex))
        (diffRows crates (keyed keyIndex (left.take maxRows))
          (keyed keyIndex (right.take maxRows)) columns).rows ↔
      ReadToo maxRows (left.map (rowKey crates keyIndex))
          (right.map (rowKey crates keyIndex)) ∧
        ReadToo maxRows (right.map (rowKey crates keyIndex))
          (left.map (rowKey crates keyIndex)) := by
  rw [respects_iff]
  have leftOnly := lacking_iff crates keyIndex (left.take maxRows) (right.take maxRows)
    (· ∉ right.map (rowKey crates keyIndex))
  have rightOnly := lacking_iff crates keyIndex (right.take maxRows) (left.take maxRows)
    (· ∉ left.map (rowKey crates keyIndex))
  simp only [mem_onlyLeftRows, mem_onlyRightRows, leftOnly, rightOnly, ReadToo, List.map_take]
  constructor
  · rintro ⟨leftOnly, rightOnly⟩
    refine ⟨fun key read shared => ?_, fun key read shared => ?_⟩
    · by_contra unread
      exact leftOnly key read unread shared
    · by_contra unread
      exact rightOnly key read unread shared
  · rintro ⟨leftToo, rightToo⟩
    refine ⟨fun key read unread shared => ?_, fun key read unread shared => ?_⟩
    · exact unread (leftToo key read shared)
    · exact unread (rightToo key read shared)

theorem compareSides_reads (left : SessionCtx) (leftTable : TableRef) (right : SessionCtx)
    (rightTable : TableRef) (options : CompareOptions) (compared : Compared)
    (done : compareSides crates left leftTable right rightTable options = .ok compared) :
    let paired := compared.pairing
    readSide crates left leftTable paired.leftKeys paired.leftNames options.maxRows =
        .ok (compared.left.rows, compared.left.capped) ∧
      readSide crates right rightTable paired.rightKeys paired.rightNames options.maxRows =
        .ok (compared.right.rows, compared.right.capped) ∧
      compared.comparison = diffRows crates (keyed paired.keyIndex compared.left.rows)
        (keyed paired.keyIndex compared.right.rows) paired.leftNames := by
  rw [compareSides] at done
  split at done
  · cases done
  · cases done
  · split at done
    · cases done
    · split at done
      · cases done
      · dsimp only at done
        split at done
        · cases done
        · cases done
        · rename_i leftRead rightRead
          cases done
          exact ⟨leftRead, rightRead, rfl⟩

theorem report_script (left : SessionCtx) (leftTable : TableRef) (right : SessionCtx)
    (rightTable : TableRef) (options : CompareOptions) (compared : Compared) (script : Text)
    (written : (report crates left leftTable right rightTable options compared).script =
      some script) :
    script = syncScript crates
      (syncTarget left leftTable right rightTable options.direction compared.pairing)
      compared.comparison.rows options.direction := by
  simp only [report] at written
  generalize (if options.direction.leftIsSource then right.sql else left.sql) = takesSql
    at written
  split at written
  · cases written
  · cases takesSql with
    | false => cases written
    | true => exact (Option.some.inj written).symm

/-- A table of one column, in the order of its rows. -/
def oneColumn (name : Text) (cells : List Int) : Table where
  header := [name]
  ordered := fun _ => cells.map fun cell => [.int cell]
  sameRows := fun _ _ => List.Perm.refl _

/-- A PostgreSQL session over such a table, with the column for its primary key. -/
def oneColumnSession (name : Text) (cells : List Int) : SessionCtx where
  engine := .postgres
  sql := true
  columns := fun _ => .ok [⟨name, true, 1⟩]
  fetchPage := fun _ query =>
    .ok ⟨[name], (((oneColumn name cells).ordered query.sort).drop query.offset).take query.limit⟩

theorem oneColumn_serves (name : Text) (cells : List Int) (table : TableRef) :
    Serves (oneColumnSession name cells) table (oneColumn name cells) := by
  intro query page answered
  cases answered
  exact ⟨rfl, rfl⟩

/-- The crates of these runs, which meet ASCII names and no JSON or bytes. -/
def asciiCrates : Crates where
  jsonText := fun _ => []
  jsonPretty := fun _ => []
  base64Decode := fun _ => none
  toLowercase := Texts.toAsciiLowercase

/-- A comparison that reads at most two rows of each side. -/
def twoRows : CompareOptions := ⟨[], 2, .leftToRight, true⟩

/-- The comparison of two such tables, the first one being the source. -/
def comparedCells (source target : List Int) : Option Compared :=
  (compareSides asciiCrates (oneColumnSession "id".toList source) ⟨none, "t".toList⟩
    (oneColumnSession "id".toList target) ⟨none, "t".toList⟩ twoRows).toOption

/-- The keys of such a table. -/
def cellKeys (cells : List Int) : List Key :=
  (oneColumn "id".toList cells).keys asciiCrates ["id".toList] ["id".toList] [0]

/-- The script of the comparison. -/
def scriptOfCells (source target : List Int) : Option Text :=
  (RowCompare.compare asciiCrates (oneColumnSession "id".toList source) ⟨none, "t".toList⟩
    (oneColumnSession "id".toList target) ⟨none, "t".toList⟩ twoRows).toOption.bind (·.script)

end DbFree.RowCompare
