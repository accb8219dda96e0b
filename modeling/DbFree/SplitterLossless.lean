import DbFree.ScriptCuts
import DbFree.SplitterAgreement

/- The splitter loses nothing of a script: at every turn, what it has passed is the text it
keeps and the separators it took, and the comments it drops are comments. -/
namespace DbFree.SqlImport

open Chars Texts SqlSplitter

def isMargin (c : Char) : Bool := isWhitespace c || c == byteOrderMark

def SqlSplitter.within (s : SqlSplitter) : Within :=
  match s.comment with
  | .none => .code
  | .line => .line
  | .block => .block s.blockDepth

section FreshLine

theorem freshLine_nil : FreshLine [] := .inl fun _ member => nomatch member

theorem freshLine_feed (kept : Text) : FreshLine (kept ++ ['\n']) := by
  left
  rw [List.rtakeWhile_concat_neg _ _ _ (by decide)]
  exact fun _ member => nomatch member

theorem contains_of_infix {text : Text} {part : String} (inside : part.toList <:+: text) :
    contains text part = true := by
  obtain ⟨front, back, rfl⟩ := inside
  rw [contains, List.any_eq_true]
  refine ⟨part.toList ++ back, ?_, List.isPrefixOf_iff_prefix.mpr (List.prefix_append _ _)⟩
  rw [List.mem_tails, List.append_assoc]
  exact List.suffix_append _ _

theorem infix_of_contains {text : Text} {part : String} (there : contains text part = true) :
    part.toList <:+: text := by
  rw [contains, List.any_eq_true] at there
  obtain ⟨suffix, member, starts⟩ := there
  exact (List.isPrefixOf_iff_prefix.mp starts).isInfix.trans ((List.mem_tails _ _).mp member).isInfix

theorem freshLine_margin {kept : Text} {c : Char} (fresh : FreshLine kept)
    (margin : isMargin c = true) : FreshLine (kept ++ [c]) := by
  by_cases feed : c = '\n'
  · rw [feed]
    exact freshLine_feed kept
  have longer : (kept ++ [c]).rtakeWhile (· ≠ '\n') = kept.rtakeWhile (· ≠ '\n') ++ [c] :=
    List.rtakeWhile_concat_pos _ _ _ (by simpa using feed)
  unfold FreshLine
  rw [longer]
  rcases fresh with blank | behind
  · left
    intro other member
    rcases List.mem_append.mp member with earlier | last
    · exact blank other earlier
    · rw [List.mem_singleton.mp last]
      exact margin
  · right
    exact contains_of_infix ((infix_of_contains behind).trans (List.infix_append' [] _ _))

theorem freshLine_closed (kept : Text) : FreshLine (kept ++ ['*', '/']) := by
  right
  have longer : (kept ++ ['*', '/']).rtakeWhile (· ≠ '\n') =
      kept.rtakeWhile (· ≠ '\n') ++ ['*'] ++ ['/'] := by
    rw [show kept ++ ['*', '/'] = (kept ++ ['*']) ++ ['/'] by simp,
      List.rtakeWhile_concat_pos _ _ _ (by decide), List.rtakeWhile_concat_pos _ _ _ (by decide)]
  rw [longer]
  exact contains_of_infix ⟨kept.rtakeWhile (· ≠ '\n'), [], by simp⟩

end FreshLine

/-- What holds of the splitter behind `chunk` and `kept`, with `left` ahead. -/
structure Stands (s : SqlSplitter) (chunk kept left : Text) : Prop where
  hold : s.hold = HOLD
  quote : s.quote ≠ some '\x00'
  tag : ∀ tag, s.dollar = some tag → tag ≠ []
  delimiter : s.delimiter ≠ []
  single : s.comment ≠ .none → s.quote = none ∧ s.bracket = false ∧ s.dollar = none
  bare : s.hasSql = false → s.quote = none ∧ s.bracket = false ∧ s.dollar = none
  line : s.lineStart = true → (s.quote = none ∧ s.bracket = false ∧ s.dollar = none) ∧
    (s.comment = .none → FreshLine kept)
  visible : s.hasSql = true → ∃ c ∈ chunk ++ kept, isMargin c = false
  comments : ∀ part behind, part ++ behind = left →
    onlyComments s.dialect behind .code 0 (kept ++ part) =
      (!s.hasSql && onlyComments s.dialect behind s.within 0 part)

theorem consume_eq (s : SqlSplitter) (chars : Text) :
    ∃ line prev prev2, s.consume chars = { s with line := line, prev := prev, prev2 := prev2 } := by
  induction chars generalizing s with
  | nil => exact ⟨s.line, s.prev, s.prev2, rfl⟩
  | cons c chars hypothesis =>
    obtain ⟨line, prev, prev2, same⟩ := hypothesis { s with
      line := if c = '\n' then s.line + 1 else s.line
      prev2 := s.prev
      prev := c }
    exact ⟨line, prev, prev2, same⟩

variable {s next : SqlSplitter} {chunk kept moved left : Text}

theorem Stands.consume (stands : Stands s chunk kept left) (chars : Text) :
    Stands (s.consume chars) chunk kept left := by
  obtain ⟨line, prev, prev2, same⟩ := consume_eq s chars
  rw [same]
  exact ⟨stands.hold, stands.quote, stands.tag, stands.delimiter, stands.single, stands.bare,
    stands.line, stands.visible, stands.comments⟩

variable (moved) in
/-- The splitter moves on, and no SQL has been seen that was not seen before. -/
theorem Stands.keep (stands : Stands s chunk kept (moved ++ left)) (hold : next.hold = s.hold)
    (dialect : next.dialect = s.dialect) (delimiter : next.delimiter = s.delimiter)
    (hasSql : next.hasSql = s.hasSql) (quote : next.quote ≠ some '\x00')
    (tag : ∀ tag, next.dollar = some tag → tag ≠ [])
    (single : next.comment ≠ .none →
      next.quote = none ∧ next.bracket = false ∧ next.dollar = none)
    (line : next.lineStart = true →
      (next.quote = none ∧ next.bracket = false ∧ next.dollar = none) ∧
        (next.comment = .none → FreshLine (kept ++ moved)))
    (bare : s.hasSql = false → (next.quote = none ∧ next.bracket = false ∧ next.dollar = none) ∧
      ∀ part behind, part ++ behind = left →
        onlyComments s.dialect behind s.within 0 (moved ++ part) =
          onlyComments s.dialect behind next.within 0 part) :
    Stands next chunk (kept ++ moved) left where
  hold := hold.trans stands.hold
  quote := quote
  tag := tag
  delimiter := delimiter ▸ stands.delimiter
  single := single
  bare none := (bare (hasSql ▸ none)).1
  line := line
  visible some := by
    obtain ⟨c, member, visible⟩ := stands.visible (hasSql ▸ some)
    exact ⟨c, by rw [← List.append_assoc]; exact List.mem_append_left _ member, visible⟩
  comments part behind whole := by
    have before := stands.comments (moved ++ part) behind (by rw [List.append_assoc, whole])
    rw [dialect, List.append_assoc, before, hasSql]
    cases seen : s.hasSql with
    | true => rfl
    | false => rw [(bare seen).2 part behind whole]

variable (moved) in
theorem Stands.mark (stands : Stands s chunk kept (moved ++ left)) (hold : next.hold = s.hold)
    (dialect : next.dialect = s.dialect) (delimiter : next.delimiter = s.delimiter)
    (hasSql : next.hasSql = true) (lineStart : next.lineStart = false)
    (quote : next.quote ≠ some '\x00') (tag : ∀ tag, next.dollar = some tag → tag ≠ [])
    (single : next.comment ≠ .none →
      next.quote = none ∧ next.bracket = false ∧ next.dollar = none)
    (visible : ∃ c ∈ moved, isMargin c = false)
    (code : ∀ part behind, part ++ behind = left →
      onlyComments s.dialect behind s.within 0 (moved ++ part) = false) :
    Stands next chunk (kept ++ moved) left where
  hold := hold.trans stands.hold
  quote := quote
  tag := tag
  delimiter := delimiter ▸ stands.delimiter
  single := single
  bare none := absurd (none.symm.trans hasSql) Bool.false_ne_true
  line starts := absurd (lineStart.symm.trans starts) Bool.false_ne_true
  visible _ := by
    obtain ⟨c, member, visible⟩ := visible
    exact ⟨c, List.mem_append_right _ (List.mem_append_right _ member), visible⟩
  comments part behind whole := by
    have before := stands.comments (moved ++ part) behind (by rw [List.append_assoc, whole])
    rw [dialect, List.append_assoc, before, code part behind whole, hasSql, Bool.and_false]
    rfl

theorem getD_head_iff (rest : Text) {d : Char} (real : d ≠ '\x00') :
    rest.head?.getD '\x00' = d ↔ rest.head? = some d := by
  cases rest with
  | nil => exact ⟨fun none => absurd none.symm real, fun none => nomatch none⟩
  | cons c more => exact Option.some.injEq c d ▸ Iff.rfl

/-- The next characters are those of the script. -/
theorem Sees.peek {last : Bool} {rest future : Text} (sees : Sees last rest future) (count : Nat)
    (near : count < HOLD) : ((rest ++ future).drop count).head? = (rest.drop count).head? := by
  cases last with
  | true => rw [sees.1 rfl, List.append_nil]
  | false =>
    have long := sees.2 rfl
    rw [List.drop_append_of_le_length (by omega), List.head?_append_of_ne_nil]
    rw [← List.length_pos_iff, List.length_drop]
    omega

/-- The splitter has moved over some characters, and stands behind them. -/
def Moved (chunk kept : Text) (buf future : Text) (move : SqlSplitter × Nat) : Prop :=
  1 ≤ move.2 ∧ move.2 ≤ buf.length ∧
    Stands move.1 chunk (kept ++ buf.take move.2) (buf.drop move.2 ++ future)

variable {last : Bool} {c d : Char} {rest future : Text}

theorem moved_one (stands : Stands next chunk (kept ++ [c]) (rest ++ future)) :
    Moved chunk kept (c :: rest) future (next, 1) :=
  ⟨Nat.le_refl 1, Nat.le_add_left 1 _, stands⟩

theorem moved_two (stands : Stands next chunk (kept ++ [c, d]) (rest ++ future)) :
    Moved chunk kept (c :: d :: rest) future (next, 2) :=
  ⟨Nat.le_succ 1, by simp, stands⟩

theorem lineMove_moved (stands : Stands s chunk kept (c :: rest ++ future))
    (comment : s.comment = .line) : Moved chunk kept (c :: rest) future (s.insideMove c rest) := by
  have apart := stands.single (by rw [comment]; decide)
  have within : s.within = .line := by rw [SqlSplitter.within, comment]
  simp only [SqlSplitter.insideMove, comment]
  split
  · rename_i feed
    apply moved_one
    refine Stands.keep [c] stands rfl rfl rfl rfl stands.quote stands.tag
      (fun _ => apart) (fun _ => ⟨apart, fun _ => ?_⟩) fun _ => ⟨apart, fun part behind _ => ?_⟩
    · rw [feed]
      exact freshLine_feed kept
    · rw [within, feed]
      rfl
  · rename_i other
    apply moved_one
    refine Stands.keep [c] stands rfl rfl rfl rfl stands.quote stands.tag
      (fun _ => apart) (fun _ => ⟨apart, fun code => ?_⟩) fun _ => ⟨apart, fun part behind _ => ?_⟩
    · rw [comment] at code
      cases code
    · rw [within]
      exact congrArg (onlyComments _ _ · 0 part) (if_neg other)

theorem blockMove_moved (stands : Stands s chunk kept (c :: rest ++ future))
    (sees : Sees last rest future) (comment : s.comment = .block) :
    Moved chunk kept (c :: rest) future (s.insideMove c rest) := by
  have apart := stands.single (by rw [comment]; decide)
  have within : s.within = .block s.blockDepth := by rw [SqlSplitter.within, comment]
  have peek : ∀ part behind, part ++ behind = rest ++ future →
      (part ++ behind).head? = rest.head? := by
    intro part behind whole
    rw [whole]
    exact sees.peek 0 (by decide)
  simp only [SqlSplitter.insideMove, comment]
  split
  · rename_i closes
    obtain ⟨star, slash⟩ := closes
    rw [getD_head_iff rest (by decide)] at slash
    obtain ⟨more, rfl⟩ := List.head?_eq_some_iff.mp slash
    subst star
    apply moved_two
    refine Stands.keep ['*', '/'] stands rfl rfl rfl rfl stands.quote stands.tag
      (fun _ => apart) (fun _ => ⟨apart, fun _ => freshLine_closed kept⟩)
      fun _ => ⟨apart, fun part behind _ => ?_⟩
    rw [within]
    show (if '*' = '*' ∧ ('/' :: part ++ behind).head? = some '/' then
        onlyComments s.dialect behind
          (if s.blockDepth ≤ 1 then .code else .block (s.blockDepth - 1)) 1 ('/' :: part)
      else _) = _
    rw [if_pos ⟨rfl, rfl⟩, SqlSplitter.within]
    by_cases outer : s.blockDepth ≤ 1
    · have zero : s.blockDepth - 1 = 0 := by omega
      rw [if_pos outer]
      simp only [zero, if_true]
      rfl
    · have deeper : ¬ s.blockDepth - 1 = 0 := by omega
      rw [if_neg outer]
      simp only [deeper, if_false]
      rfl
  rename_i closed_not
  rw [getD_head_iff rest (by decide)] at closed_not
  split
  · rename_i opens
    obtain ⟨slash, star, nested⟩ := opens
    rw [getD_head_iff rest (by decide)] at star
    obtain ⟨more, rfl⟩ := List.head?_eq_some_iff.mp star
    subst slash
    apply moved_two
    refine Stands.keep ['/', '*'] stands rfl rfl rfl rfl stands.quote stands.tag
      (fun _ => apart) (fun _ => ⟨apart, fun code => ?_⟩) fun _ => ⟨apart, fun part behind _ => ?_⟩
    · exact Comment.noConfusion code
    · have nests : nests s.dialect = true := nested
      rw [within]
      show (if '/' = '*' ∧ ('*' :: part ++ behind).head? = some '/' then _
        else if '/' = '/' ∧ ('*' :: part ++ behind).head? = some '*' ∧ DbFree.SqlImport.nests s.dialect then
          onlyComments s.dialect behind (.block (s.blockDepth + 1)) 1 ('*' :: part)
        else _) = _
      rw [if_neg (by simp), if_pos ⟨rfl, rfl, nests⟩]
      rfl
  rename_i opened_not
  rw [getD_head_iff rest (by decide)] at opened_not
  change ¬ (c = '/' ∧ rest.head? = some '*' ∧ nests s.dialect = true) at opened_not
  have stays : ∀ next : SqlSplitter, next.within = s.within → ∀ part behind,
      part ++ behind = rest ++ future →
      onlyComments s.dialect behind s.within 0 ([c] ++ part) =
        onlyComments s.dialect behind next.within 0 part := by
    intro next same part behind whole
    rw [same, within]
    show (if c = '*' ∧ (part ++ behind).head? = some '/' then _
      else if c = '/' ∧ (part ++ behind).head? = some '*' ∧ nests s.dialect then _
      else onlyComments s.dialect behind (.block s.blockDepth) 0 part) = _
    rw [peek part behind whole, if_neg closed_not, if_neg opened_not]
  split
  · apply moved_one
    refine Stands.keep [c] stands rfl rfl rfl rfl stands.quote stands.tag
      (fun _ => apart) (fun _ => ⟨apart, fun code => ?_⟩) fun _ => ⟨apart, stays _ within.symm⟩
    exact Comment.noConfusion code
  · apply moved_one
    refine Stands.keep [c] stands rfl rfl rfl rfl stands.quote stands.tag
      (fun _ => apart) (fun _ => ⟨apart, fun code => ?_⟩) fun _ => ⟨apart, stays _ rfl⟩
    exact absurd (comment.symm.trans code) (by decide)

variable (moved) in
/-- Inside a quote the splitter moves on: what is quoted is SQL, and no line starts there. -/
theorem Stands.pass (stands : Stands s chunk kept (moved ++ left))
    (quoted : ¬(s.quote = none ∧ s.bracket = false ∧ s.dollar = none))
    (comment : s.comment = .none) (hold : next.hold = s.hold) (dialect : next.dialect = s.dialect)
    (delimiter : next.delimiter = s.delimiter) (hasSql : next.hasSql = s.hasSql)
    (lineStart : next.lineStart = s.lineStart) (still : next.comment = s.comment)
    (quote : next.quote ≠ some '\x00') (tag : ∀ tag, next.dollar = some tag → tag ≠ []) :
    Stands next chunk (kept ++ moved) left := by
  refine stands.keep moved hold dialect delimiter hasSql quote tag ?_ ?_ ?_
  · intro commented
    exact absurd (still.trans comment) commented
  · intro starts
    exact absurd (stands.line (lineStart ▸ starts)).1 quoted
  · intro none
    exact absurd (stands.bare none) quoted

theorem quotedMove_moved (stands : Stands s chunk kept (c :: rest ++ future))
    (comment : s.comment = .none)
    (quoted : ¬(s.quote = none ∧ s.bracket = false ∧ s.dollar = none)) :
    Moved chunk kept (c :: rest) future (s.insideMove c rest) := by
  have one : ∀ next : SqlSplitter, next.hold = s.hold → next.dialect = s.dialect →
      next.delimiter = s.delimiter → next.hasSql = s.hasSql → next.lineStart = s.lineStart →
      next.comment = s.comment → next.quote ≠ some '\x00' →
      (∀ tag, next.dollar = some tag → tag ≠ []) →
      Moved chunk kept (c :: rest) future (next, 1) := by
    intro next hold dialect delimiter hasSql lineStart still quote tag
    exact moved_one (Stands.pass [c] stands quoted comment hold dialect delimiter hasSql
      lineStart still quote tag)
  have stay := one s rfl rfl rfl rfl rfl rfl stands.quote stands.tag
  have two : ∀ d more, rest = d :: more → Moved chunk kept (c :: rest) future (s, 2) := by
    intro d more behind
    subst behind
    exact moved_two (Stands.pass [c, d] stands quoted comment rfl rfl rfl rfl rfl rfl
      stands.quote stands.tag)
  cases quote : s.quote with
  | some q =>
    have real : q ≠ '\x00' := by
      rintro rfl
      exact stands.quote quote
    simp only [SqlSplitter.insideMove, comment, quote]
    split
    · cases rest with
      | nil => exact stay
      | cons d more => exact two d more rfl
    split
    · split
      · rename_i doubled
        obtain ⟨more, behind⟩ := List.head?_eq_some_iff.mp ((getD_head_iff rest real).mp doubled)
        exact two q more behind
      · exact one _ rfl rfl rfl rfl rfl comment.symm (Option.some_ne_none _).symm stands.tag
    · exact stay
  | none =>
    simp only [SqlSplitter.insideMove, comment, quote]
    split
    · split
      · split
        · rename_i doubled
          obtain ⟨more, behind⟩ := List.head?_eq_some_iff.mp
            ((getD_head_iff rest (by decide)).mp doubled)
          exact two ']' more behind
        · exact one _ rfl rfl rfl rfl rfl comment.symm (Option.some_ne_none _).symm stands.tag
      · exact stay
    · cases dollar : s.dollar with
      | none =>
        rename_i bracket
        exact absurd ⟨quote, Bool.eq_false_iff.mpr bracket, dollar⟩ quoted
      | some tag =>
        dsimp only
        split
        · rename_i closes
          have opens := List.isPrefixOf_iff_prefix.mp closes
          refine ⟨List.length_pos_iff.mpr (stands.tag tag dollar), opens.length_le, ?_⟩
          have whole : (c :: rest).take tag.length ++ ((c :: rest).drop tag.length ++ future) =
              c :: rest ++ future := by
            rw [← List.append_assoc, List.take_append_drop]
          rw [← whole] at stands
          exact stands.pass _ quoted comment rfl rfl rfl rfl rfl comment.symm
            (Option.some_ne_none _).symm fun _ none => absurd none (Option.some_ne_none _).symm
        · exact stay

theorem insideMove_moved (stands : Stands s chunk kept (c :: rest ++ future))
    (sees : Sees last rest future) (closed : s.inCode = false) :
    Moved chunk kept (c :: rest) future (s.insideMove c rest) := by
  cases comment : s.comment with
  | line => exact lineMove_moved stands comment
  | block => exact blockMove_moved stands sees comment
  | none =>
    apply quotedMove_moved stands comment
    rintro ⟨quote, bracket, dollar⟩
    rw [SqlSplitter.inCode, comment, quote, bracket, dollar] at closed
    cases closed

theorem marks_peek (sees : Sees last rest future) (dialect : SplitDialect) (c : Char)
    {part behind : Text} (whole : part ++ behind = rest ++ future) :
    lineMark dialect c (part ++ behind) = lineMark dialect c rest ∧
      blockMark dialect c (part ++ behind) = blockMark dialect c rest := by
  have first := sees.peek 0 (by decide)
  have second := sees.peek 1 (by decide)
  have third := sees.peek 2 (by decide)
  rw [List.drop_zero, List.drop_zero] at first
  unfold lineMark blockMark
  rw [whole, first, second, third]
  exact ⟨rfl, rfl⟩

theorem onlyComments_visible {dialect : SplitDialect} {behind part : Text}
    (visible : isMargin c = false) (line : lineMark dialect c (part ++ behind) = none)
    (block : blockMark dialect c (part ++ behind) = false) :
    onlyComments dialect behind .code 0 (c :: part) = false := by
  rw [onlyComments]
  change (if isMargin c then _ else _) = _
  rw [visible, if_neg Bool.false_ne_true, line]
  dsimp only
  rw [block, if_neg Bool.false_ne_true]

theorem onlyComments_line {dialect : SplitDialect} {behind part : Text} {more : Nat}
    (visible : isMargin c = false) (line : lineMark dialect c (part ++ behind) = some more) :
    onlyComments dialect behind .code 0 (c :: part) =
      onlyComments dialect behind .line more part := by
  rw [onlyComments]
  change (if isMargin c then _ else _) = _
  rw [visible, if_neg Bool.false_ne_true, line]

theorem onlyComments_block {dialect : SplitDialect} {behind part : Text}
    (visible : isMargin c = false) (line : lineMark dialect c (part ++ behind) = none)
    (block : blockMark dialect c (part ++ behind) = true) :
    onlyComments dialect behind .code 0 (c :: part) =
      onlyComments dialect behind (.block 1) 1 part := by
  rw [onlyComments]
  change (if isMargin c then _ else _) = _
  rw [visible, if_neg Bool.false_ne_true, line]
  dsimp only
  rw [if_pos block]

theorem onlyComments_margin {dialect : SplitDialect} {behind part : Text}
    (margin : isMargin c = true) : onlyComments dialect behind .code 0 (c :: part) =
      onlyComments dialect behind .code 0 part := by
  rw [onlyComments]
  exact if_pos margin

theorem markSql_same (s : SqlSplitter) (buf : Text) :
    (s.markSql buf).hold = s.hold ∧ (s.markSql buf).dialect = s.dialect ∧
      (s.markSql buf).comment = s.comment ∧ (s.markSql buf).bracket = s.bracket ∧
      (s.markSql buf).hasSql = true ∧ (s.markSql buf).lineStart = false := by
  unfold SqlSplitter.markSql
  dsimp only
  split
  · rename_i seen
    exact ⟨rfl, rfl, rfl, rfl, seen, rfl⟩
  · exact ⟨rfl, rfl, rfl, rfl, rfl, rfl⟩

theorem inCode_iff : s.inCode = true ↔
    s.comment = .none ∧ s.quote = none ∧ s.bracket = false ∧ s.dollar = none := by
  simp [SqlSplitter.inCode, and_assoc]

theorem codeMove_moved (stands : Stands s chunk kept (c :: rest ++ future))
    (sees : Sees last rest future) (code : s.inCode = true) :
    Moved chunk kept (c :: rest) future (s.codeMove last c rest) := by
  obtain ⟨comment, quote, bracket, dollar⟩ := inCode_iff.mp code
  have apart : s.quote = none ∧ s.bracket = false ∧ s.dollar = none := ⟨quote, bracket, dollar⟩
  have within : s.within = .code := by rw [SqlSplitter.within, comment]
  obtain ⟨hold, dialect, comment', bracket', hasSql, lineStart⟩ := markSql_same s (c :: rest)
  obtain ⟨-, delimiter, quote', dollar'⟩ := markSql_keeps s (c :: rest)
  have line_iff : (c = '-' ∧ rest.head?.getD '\x00' = '-' ∧
      (!(s.dialect == .mysql) || (rest.drop 1).head?.any isWhitespace ||
        ((rest.drop 1).head?.isNone && last)) = true) ↔
      (c = '-' ∧ rest.head? = some '-' ∧
      (s.dialect = .mysql → ∀ after ∈ (rest.drop 1).head?, isWhitespace after = true)) := by
    rw [getD_head_iff rest (by decide)]
    refine and_congr_right fun _ => and_congr_right fun _ => ?_
    cases behind : (rest.drop 1).head? with
    | none =>
      have late : last = true := by
        by_contra early
        have long := sees.2 (Bool.eq_false_iff.mpr early)
        rw [List.head?_eq_none_iff, List.drop_eq_nil_iff] at behind
        have held : 160 ≤ rest.length := long
        omega
      simp [late]
    | some after => by_cases mysql : s.dialect = .mysql <;> simp [mysql]
  have line_none : ¬(c = '-' ∧ rest.head? = some '-' ∧
      (s.dialect = .mysql → ∀ after ∈ (rest.drop 1).head?, isWhitespace after = true)) →
      ¬(c = '#' ∧ s.dialect = .mysql) → lineMark s.dialect c rest = none := by
    intro dashes hash
    rw [lineMark, if_neg dashes, if_neg hash]
  have unmarked : isMargin c = false → lineMark s.dialect c rest = none →
      blockMark s.dialect c rest = false → ∀ tail left : Text, rest ++ future = tail ++ left →
      ∀ part behind, part ++ behind = left →
        onlyComments s.dialect behind s.within 0 (c :: tail ++ part) = false := by
    intro visible line block tail left split part behind whole
    have ahead : (tail ++ part) ++ behind = rest ++ future := by
      rw [List.append_assoc, whole, split]
    obtain ⟨line', block'⟩ := marks_peek sees s.dialect c ahead
    rw [within]
    exact onlyComments_visible visible (line'.trans line) (block'.trans block)
  unfold SqlSplitter.codeMove
  dsimp only
  split
  · rename_i opens
    obtain ⟨rfl, dash, after⟩ := line_iff.mp opens
    obtain ⟨more, rfl⟩ := List.head?_eq_some_iff.mp dash
    apply moved_two
    refine Stands.keep ['-', '-'] stands rfl rfl rfl rfl stands.quote stands.tag
      (fun _ => apart) (fun _ => ⟨apart, fun code => Comment.noConfusion code⟩)
      fun _ => ⟨apart, fun part behind whole => ?_⟩
    have ahead : ('-' :: part) ++ behind = '-' :: more ++ future := by
      rw [List.cons_append, whole]
      rfl
    have mark : lineMark s.dialect '-' ('-' :: more) = some 1 := if_pos ⟨rfl, dash, after⟩
    rw [within]
    exact onlyComments_line (by decide) ((marks_peek sees s.dialect '-' ahead).1.trans mark)
  rename_i dashes
  rw [line_iff] at dashes
  split
  · rename_i opens
    obtain ⟨rfl, mysql⟩ := opens
    have mysql := beq_iff_eq.mp mysql
    apply moved_one
    refine Stands.keep ['#'] stands rfl rfl rfl rfl stands.quote stands.tag
      (fun _ => apart) (fun _ => ⟨apart, fun code => Comment.noConfusion code⟩)
      fun _ => ⟨apart, fun part behind whole => ?_⟩
    have mark : lineMark s.dialect '#' rest = some 0 := by
      rw [lineMark, if_neg dashes, if_pos ⟨rfl, mysql⟩]
    rw [within]
    exact onlyComments_line (by decide) ((marks_peek sees s.dialect '#' whole).1.trans mark)
  rename_i hash
  rw [beq_iff_eq] at hash
  have line := line_none dashes hash
  split
  · rename_i opens
    obtain ⟨rfl, star⟩ := opens
    rw [getD_head_iff rest (by decide)] at star
    obtain ⟨more, rfl⟩ := List.head?_eq_some_iff.mp star
    split
    · rename_i conditional
      have block : blockMark s.dialect '/' ('*' :: more) = false := by
        rw [blockMark, conditional]
        rfl
      apply moved_two
      refine Stands.mark ['/', '*'] stands hold dialect delimiter hasSql lineStart
        (by rw [quote', quote]; exact fun none => nomatch none)
        (by rw [dollar', dollar]; exact fun _ none => nomatch none)
        (fun _ => ⟨quote'.trans quote, bracket'.trans bracket, dollar'.trans dollar⟩)
        ⟨'/', List.mem_cons_self, by decide⟩ ?_
      exact unmarked (by decide) line block ['*'] _ rfl
    · rename_i conditional
      have block : blockMark s.dialect '/' ('*' :: more) = true := by
        rw [blockMark, Bool.eq_false_iff.mpr conditional]
        rfl
      apply moved_two
      refine Stands.keep ['/', '*'] stands rfl rfl rfl rfl stands.quote stands.tag
        (fun _ => apart) (fun _ => ⟨apart, fun code => Comment.noConfusion code⟩)
        fun _ => ⟨apart, fun part behind whole => ?_⟩
      have ahead : ('*' :: part) ++ behind = '*' :: more ++ future := by
        rw [List.cons_append, whole]
        rfl
      obtain ⟨line', block'⟩ := marks_peek sees s.dialect '/' ahead
      rw [within]
      exact onlyComments_block (by decide) (line'.trans line) (block'.trans block)
  rename_i slash
  rw [getD_head_iff rest (by decide)] at slash
  have block : blockMark s.dialect c rest = false := by
    rw [blockMark, Bool.and_eq_false_iff]
    left
    rw [Bool.and_eq_false_iff, beq_eq_false_iff_ne, beq_eq_false_iff_ne]
    exact not_and_or.mp slash
  have commentless : ∀ next : SqlSplitter, next.comment = (s.markSql (c :: rest)).comment →
      next.comment ≠ .none → next.quote = none ∧ next.bracket = false ∧ next.dollar = none := by
    intro next same commented
    exact absurd (same.trans (comment'.trans comment)) commented
  have untagged : ∀ tag, (s.markSql (c :: rest)).dollar = some tag → tag ≠ [] := by
    intro tag opened
    rw [dollar', dollar] at opened
    cases opened
  have unquoted : (s.markSql (c :: rest)).quote ≠ some '\x00' := by
    rw [quote', quote]
    exact fun none => nomatch none
  split
  · rename_i opens
    have visible : isMargin c = false ∧ c ≠ '\x00' := by
      rcases opens with rfl | rfl | ⟨rfl, -⟩ <;> decide
    apply moved_one
    refine Stands.mark [c] stands hold dialect delimiter hasSql lineStart ?_ untagged
      (commentless _ rfl) ⟨c, List.mem_cons_self, visible.1⟩ (unmarked visible.1 line block [] _ rfl)
    exact fun null => visible.2 (Option.some.inj null)
  split
  · rename_i opens
    have visible : isMargin c = false := by
      rw [opens.1]
      decide
    apply moved_one
    exact Stands.mark [c] stands hold dialect delimiter hasSql lineStart unquoted
      untagged (commentless _ rfl) ⟨c, List.mem_cons_self, visible⟩ (unmarked visible line block [] _ rfl)
  split
  · rename_i tag opens
    split at opens
    · rename_i dollars
      have visible : isMargin c = false := by
        rw [dollars.1]
        decide
      obtain ⟨real, long, inside⟩ := dollarTag_length _ _ opens
      refine ⟨long, inside, ?_⟩
      obtain ⟨more, size⟩ := Nat.exists_eq_add_of_le' long
      dsimp only
      rw [size, List.take_succ_cons, List.drop_succ_cons]
      have split : c :: rest.take more ++ (rest.drop more ++ future) = c :: rest ++ future := by
        rw [List.cons_append, List.cons_append, ← List.append_assoc, List.take_append_drop]
      rw [← split] at stands
      refine stands.mark _ hold dialect delimiter hasSql lineStart unquoted ?_ (commentless _ rfl)
        ⟨c, List.mem_cons_self, visible⟩ (unmarked visible line block (rest.take more) _ ?_)
      · rintro other same
        exact Option.some.inj same ▸ real
      · exact (List.cons.inj split).2.symm
    · cases opens
  · have shown : (!isWhitespace c && c != byteOrderMark) = !isMargin c := by
      rw [isMargin, Bool.not_or]
      rfl
    rw [shown]
    cases margin : isMargin c with
    | true =>
      rw [Bool.not_true, if_neg Bool.false_ne_true]
      apply moved_one
      have read : ∀ next : SqlSplitter, next.within = s.within → ∀ part behind,
          part ++ behind = rest ++ future →
          onlyComments s.dialect behind s.within 0 ([c] ++ part) =
            onlyComments s.dialect behind next.within 0 part := by
        intro next same part behind _
        rw [same, within]
        exact onlyComments_margin margin
      split
      · rename_i feed
        refine Stands.keep [c] stands rfl rfl rfl rfl stands.quote stands.tag
          (fun _ => apart) (fun _ => ⟨apart, fun _ => ?_⟩) fun _ => ⟨apart, read _ rfl⟩
        rw [feed]
        exact freshLine_feed kept
      · exact Stands.keep [c] stands rfl rfl rfl rfl stands.quote stands.tag
          (fun _ => apart)
          (fun starts => ⟨apart, fun code => freshLine_margin ((stands.line starts).2 code) margin⟩)
          fun _ => ⟨apart, read s rfl⟩
    | false =>
      have other : c ≠ '\n' := by
        rintro rfl
        exact absurd margin (by decide)
      rw [Bool.not_false, if_pos rfl, if_neg other]
      apply moved_one
      exact Stands.mark [c] stands hold dialect delimiter hasSql lineStart unquoted
        untagged (commentless _ rfl) ⟨c, List.mem_cons_self, margin⟩
        (unmarked margin line block [] _ rfl)

theorem insideMove_same (s : SqlSplitter) (c : Char) (rest : Text) :
    (s.insideMove c rest).1.dialect = s.dialect ∧
      (s.insideMove c rest).1.delimiter = s.delimiter ∧
      (s.insideMove c rest).1.current = s.current := by
  unfold SqlSplitter.insideMove
  dsimp only
  repeat' split
  all_goals exact ⟨rfl, rfl, rfl⟩

theorem codeMove_same (s : SqlSplitter) (last : Bool) (c : Char) (rest : Text) :
    (s.codeMove last c rest).1.dialect = s.dialect ∧
      (s.codeMove last c rest).1.delimiter = s.delimiter ∧
      (s.codeMove last c rest).1.current = s.current := by
  have dialect := (markSql_same s (c :: rest)).2.1
  obtain ⟨current, delimiter, -⟩ := markSql_keeps s (c :: rest)
  unfold SqlSplitter.codeMove
  dsimp only
  repeat' split
  all_goals first | exact ⟨rfl, rfl, rfl⟩ | exact ⟨dialect, delimiter, current⟩

theorem append_eq {s appended : SqlSplitter} {chars : Text}
    (append : s.append chars = .ok appended) :
    appended = { s with current := s.current ++ chars } := by
  unfold SqlSplitter.append at append
  split at append
  · cases append
  · exact (Except.ok.inj append).symm

theorem trimmed_ne_nil {text : Text} (visible : ∃ c ∈ text, isMargin c = false) :
    trimmed text ≠ [] := by
  obtain ⟨c, member, visible⟩ := visible
  obtain ⟨front, back, parts, before, behind⟩ := strip_parts
    (fun c => isWhitespace c || c == byteOrderMark) text
  intro none
  change (text.dropWhile fun c => isWhitespace c || c == byteOrderMark).rdropWhile _ = [] at none
  rw [none, List.append_nil] at parts
  rw [parts] at member
  have margin : isMargin c = true := (List.mem_append.mp member).elim (before c) (behind c)
  exact absurd (visible.symm.trans margin) Bool.false_ne_true

/-- The statement that ends here is the one of what has been kept. -/
theorem Stands.statement (stands : Stands s chunk kept left) {taker : SqlSplitter}
    (current : taker.current = chunk ++ kept) (hasSql : taker.hasSql = s.hasSql) :
    taker.takeStatement.2.map SqlStatement.text = statementOf s.dialect chunk kept left := by
  have read := stands.comments [] left rfl
  rw [List.append_nil, onlyComments, Bool.and_true] at read
  rw [statementOf, read, SqlSplitter.takeStatement, current, hasSql]
  cases seen : s.hasSql with
  | false => rfl
  | true =>
    have real : (trimmed (chunk ++ kept)).isEmpty = false := by
      rw [Bool.eq_false_iff]
      exact fun none => trimmed_ne_nil (stands.visible seen) (List.isEmpty_iff.mp none)
    simp [real]

/-- The script so far is accounted for: whatever statements the text ahead is cut into, the
whole script is cut into those before and these. -/
def Accounted (dialect : SplitDialect) (script : Text) : Invariant :=
  fun s pending out left => s.dialect = dialect ∧ ∃ chunk kept,
    s.current ++ pending = chunk ++ kept ∧ Stands s chunk kept left ∧
    ∀ later, Cuts true dialect s.delimiter chunk (kept ++ left) later →
      Cuts true dialect [';'] [] script (out.map SqlStatement.text ++ later)

section Accounted

variable {dialect : SplitDialect} {script pending buf : Text} {out : List SqlStatement}

theorem Stands.begin (stands : Stands s chunk kept left) (code : s.inCode = true)
    (delimiter : next.delimiter ≠ []) (hold : next.hold = s.hold) (hasSql : next.hasSql = false) (comment : next.comment = s.comment)
    (quote : next.quote = s.quote) (bracket : next.bracket = s.bracket)
    (dollar : next.dollar = s.dollar) (chunk : Text) (rest : Text) :
    Stands next chunk [] rest := by
  obtain ⟨still, unquoted, unbracketed, untagged⟩ := inCode_iff.mp code
  rw [← comment] at still
  rw [← quote] at unquoted
  rw [← bracket] at unbracketed
  rw [← dollar] at untagged
  have apart := And.intro unquoted (And.intro unbracketed untagged)
  refine ⟨hold.trans stands.hold, ?_, ?_, delimiter, fun _ => apart, fun _ => apart,
    fun _ => ⟨apart, fun _ => freshLine_nil⟩, ?_, ?_⟩
  · rw [unquoted]
    exact fun none => nomatch none
  · intro tag tagged
    rw [untagged] at tagged
    cases tagged
  · intro seen
    exact absurd (hasSql.symm.trans seen) Bool.false_ne_true
  · intro part behind _
    rw [hasSql, SqlSplitter.within, still]
    rfl

/-- A separator is taken and ends a statement. -/
theorem Accounted.cut {used : Nat} {directive : Bool} {scan next : Scan} {taken : Nat}
    {before : List SqlStatement}
    (held : Accounted dialect script scan.splitter scan.pending (before ++ scan.out)
      (buf ++ future)) (code : scan.splitter.inCode = true)
    (cuts : ∀ chunk kept later, (scan.splitter.lineStart = true → FreshLine kept) →
      Cuts true dialect scan.splitter.delimiter [] (buf.drop used ++ future) later →
      Cuts true dialect scan.splitter.delimiter chunk (kept ++ (buf ++ future))
        (statementOf dialect chunk kept (buf ++ future) ++ later))
    (cut : scan.cut buf used directive = .ok (next, taken)) :
    taken = used ∧ Accounted dialect script next.splitter next.pending (before ++ next.out)
      (buf.drop used ++ future) := by
  obtain ⟨same, chunk, kept, kept_eq, stands, so_far⟩ := held
  obtain ⟨appended, append, rfl, rfl⟩ := cut_ok scan buf used directive next taken cut
  have current : appended.current = chunk ++ kept := by
    rw [append_eq append]
    exact kept_eq
  have found := stands.statement current (by rw [append_eq append])
  rw [same] at found
  obtain ⟨line, prev, prev2, consumed⟩ := consume_eq appended.takeStatement.1 (buf.take taken)
  have shape : (if directive = true then
      { appended.takeStatement.1.consume (buf.take taken) with lineStart := true }
      else appended.takeStatement.1.consume (buf.take taken)) = { scan.splitter with
        current := []
        hasSql := false
        plsql := false
        line := line
        prev := prev
        prev2 := prev2
        lineStart := if directive = true then true else scan.splitter.lineStart } := by
    rw [consumed, append_eq append]
    cases directive <;> rfl
  dsimp only
  rw [shape]
  refine ⟨rfl, same, [], [], rfl, ?_, fun later later_cuts => ?_⟩
  · refine stands.begin code ?_ ?_ ?_ ?_ ?_ ?_ ?_ [] _
    · exact stands.delimiter
    all_goals rfl
  · have fresh : scan.splitter.lineStart = true → FreshLine kept :=
      fun starts => (stands.line starts).2 (inCode_iff.mp code).1
    have whole := so_far _ (cuts chunk kept later fresh later_cuts)
    rw [← found, ← List.append_assoc, ← List.map_append, List.append_assoc] at whole
    exact whole

/-- A `DELIMITER` line is taken, in front of a statement. -/
theorem Accounted.redelimit {used : Nat} {token : Text} {scan next : Scan} {taken : Nat}
    {before : List SqlStatement}
    (held : Accounted dialect script scan.splitter scan.pending (before ++ scan.out)
      (buf ++ future)) (code : scan.splitter.inCode = true)
    (mysql : scan.splitter.dialect = .mysql) (starts : scan.splitter.lineStart = true)
    (empty : scan.splitter.hasSql = false)
    (line : DelimiterLine (buf.take used) token (buf.drop used ++ future))
    (redelimit : scan.redelimit buf used token = .ok (next, taken)) :
    taken = used ∧ Accounted dialect script next.splitter next.pending (before ++ next.out)
      (buf.drop used ++ future) := by
  obtain ⟨same, chunk, kept, kept_eq, stands, so_far⟩ := held
  unfold Scan.redelimit at redelimit
  split at redelimit
  · cases redelimit
  rename_i appended append
  obtain ⟨rfl, rfl⟩ := Prod.mk.inj (Except.ok.inj redelimit)
  obtain ⟨number, prev, prev2, consumed⟩ := consume_eq appended (buf.take used)
  dsimp only
  rw [consumed, append_eq append]
  have split : buf.take used ++ (buf.drop used ++ future) = buf ++ future := by
    rw [← List.append_assoc, List.take_append_drop]
  have read := stands.comments [] (buf ++ future) rfl
  rw [List.append_nil, empty, onlyComments, ← split] at read
  have token_real : token ≠ [] := by
    obtain ⟨_, _, _, _, _, _, _, real, _⟩ := line
    exact real
  refine ⟨rfl, same, chunk ++ kept, [], ?_, ?_, fun later later_cuts => ?_⟩
  · rw [List.append_nil, List.append_nil]
    exact kept_eq
  · refine stands.begin code ?_ ?_ ?_ ?_ ?_ ?_ ?_ (chunk ++ kept) _
    · exact token_real
    · rfl
    · exact empty
    all_goals rfl
  · have fresh := (stands.line starts).2 (inCode_iff.mp code).1
    have cuts : Cuts true dialect scan.splitter.delimiter chunk
        (kept ++ buf.take used ++ (buf.drop used ++ future)) later :=
      .redelimit (same ▸ mysql) fresh line (same ▸ read) later_cuts
    rw [List.append_assoc, split] at cuts
    exact so_far later cuts

theorem Accounted.advance {scan : Scan} {before : List SqlStatement} {move : SqlSplitter × Nat}
    (held : Accounted dialect script scan.splitter scan.pending (before ++ scan.out)
      (buf ++ future))
    (moves : ∀ chunk kept, Stands scan.splitter chunk kept (buf ++ future) →
      Moved chunk kept buf future move)
    (same : move.1.dialect = scan.splitter.dialect ∧
      move.1.delimiter = scan.splitter.delimiter ∧ move.1.current = scan.splitter.current) :
    1 ≤ move.2 ∧ move.2 ≤ buf.length ∧ Accounted dialect script (scan.advance move buf).1.splitter
      (scan.advance move buf).1.pending (before ++ (scan.advance move buf).1.out)
      (buf.drop move.2 ++ future) := by
  obtain ⟨dialect_eq, chunk, kept, kept_eq, stands, so_far⟩ := held
  obtain ⟨some, inside, stood⟩ := moves chunk kept stands
  obtain ⟨line, prev, prev2, consumed⟩ := consume_eq move.1 (buf.take move.2)
  have passed := stood.consume (buf.take move.2)
  rw [consumed] at passed
  dsimp only [Scan.advance]
  rw [consumed]
  refine ⟨some, inside, same.1.trans dialect_eq, chunk, kept ++ buf.take move.2, ?_, passed,
    fun later later_cuts => so_far later ?_⟩
  · show move.1.current ++ (scan.pending ++ buf.take move.2) = _
    rw [same.2.2, ← List.append_assoc, kept_eq, List.append_assoc]
  · change Cuts true dialect move.1.delimiter chunk _ later at later_cuts
    rw [same.2.1, List.append_assoc, ← List.append_assoc (buf.take move.2),
      List.take_append_drop] at later_cuts
    exact later_cuts

/-- What the splitter has read where it takes a separator. -/
def Reads (s : SqlSplitter) (last : Bool) (buf : Text) : Scan.Opening → Prop
  | .delimiterLine used token => s.lineStart = true ∧ s.dialect = .mysql ∧ s.hasSql = false ∧
    parseDelimiter buf last = .ok (some (used, token))
  | .batchLine used => s.lineStart = true ∧
    (s.dialect = .mssql ∧ parseGo buf last = some used ∨
      s.dialect = .oracle ∧ parseSlash buf last = some used)
  | .delimiter => s.delimiter <+: buf
  | .other => True

theorem opening_reads {s : SqlSplitter} {last : Bool} {buf : Text} {what : Scan.Opening}
    (opened : Scan.opening s last buf = .ok what) : Reads s last buf what := by
  unfold Scan.opening at opened
  split at opened
  · cases opened
  · rename_i used token line
    cases opened
    unfold Scan.delimiterLine at line
    split at line
    · rename_i starts
      rw [Bool.and_eq_true, Bool.and_eq_true, beq_iff_eq, Bool.not_eq_true'] at starts
      exact ⟨starts.1.1, starts.1.2, starts.2, line⟩
    · cases line
  · split at opened
    · rename_i used batch
      cases opened
      unfold Scan.batchLine at batch
      split at batch
      · rename_i starts
        rw [Bool.and_eq_true, beq_iff_eq] at starts
        exact ⟨starts.1, .inl ⟨starts.2, batch⟩⟩
      · split at batch
        · rename_i starts
          rw [Bool.and_eq_true, beq_iff_eq] at starts
          exact ⟨starts.1, .inr ⟨starts.2, batch⟩⟩
        · cases batch
    · split at opened
      · rename_i ends
        cases opened
        rw [Bool.and_eq_true] at ends
        exact List.isPrefixOf_iff_prefix.mp ends.2
      · cases opened
        trivial

theorem accounted_step {scan next : Scan} {used : Nat} {before : List SqlStatement}
    (held : Accounted dialect script scan.splitter scan.pending (before ++ scan.out)
      (c :: rest ++ future)) (sees : Sees last rest future)
    (stepped : scan.step last c rest = .ok (next, used)) :
    1 ≤ used ∧ used ≤ rest.length + 1 ∧ Accounted dialect script next.splitter next.pending
      (before ++ next.out) ((c :: rest).drop used ++ future) := by
  have same := held.1
  unfold Scan.step at stepped
  by_cases code : scan.splitter.inCode = true
  swap
  · rw [if_neg code] at stepped
    obtain ⟨rfl, rfl⟩ := Prod.mk.inj (Except.ok.inj stepped)
    exact held.advance
      (fun chunk kept stands => insideMove_moved stands sees (Bool.eq_false_iff.mpr code))
      (insideMove_same _ c rest)
  rw [if_pos code] at stepped
  have split : ∀ used, (c :: rest).take used ++ ((c :: rest).drop used ++ future) =
      c :: rest ++ future := by
    intro used
    rw [← List.append_assoc, List.take_append_drop]
  cases opened : Scan.opening scan.splitter last (c :: rest) with
  | error error =>
    rw [opened] at stepped
    cases stepped
  | ok what =>
    have spec := opening_reads opened
    rw [opened] at stepped
    cases what with
    | other =>
      obtain ⟨rfl, rfl⟩ := Prod.mk.inj (Except.ok.inj stepped)
      exact held.advance (fun chunk kept stands => codeMove_moved stands sees code)
        (codeMove_same _ last c rest)
    | delimiter =>
      have taken := List.prefix_iff_eq_take.mp spec
      have real : scan.splitter.delimiter ≠ [] := by
        obtain ⟨_, _, _, _, stands, _⟩ := held
        exact stands.delimiter
      have cuts : ∀ chunk kept later, (scan.splitter.lineStart = true → FreshLine kept) →
          Cuts true dialect scan.splitter.delimiter []
            ((c :: rest).drop scan.splitter.delimiter.length ++ future) later →
          Cuts true dialect scan.splitter.delimiter chunk (kept ++ (c :: rest ++ future))
            (statementOf dialect chunk kept (c :: rest ++ future) ++ later) := by
        intro chunk kept later _ cuts
        rw [← split scan.splitter.delimiter.length, ← taken, ← List.append_assoc]
        exact .delimiter cuts
      obtain ⟨rfl, next_held⟩ := held.cut code cuts stepped
      exact ⟨List.length_pos_iff.mpr real, spec.length_le, next_held⟩
    | delimiterLine line_used token =>
      obtain ⟨starts, mysql, empty, parsed⟩ := spec
      obtain ⟨line, inside, some⟩ := parseDelimiter_spec sees.1 parsed
      obtain ⟨rfl, next_held⟩ := held.redelimit code mysql starts empty line stepped
      exact ⟨some, inside, next_held⟩
    | batchLine line_used =>
      obtain ⟨starts, parsed⟩ := spec
      have line : BatchLine true dialect ((c :: rest).take line_used)
          ((c :: rest).drop line_used ++ future) ∧ line_used ≤ rest.length + 1 ∧
          1 ≤ line_used := by
        rcases parsed with ⟨mssql, parsed⟩ | ⟨oracle, parsed⟩
        · obtain ⟨line, bounds⟩ := parseGo_spec sees.1 parsed
          exact ⟨.inl ⟨same ▸ mssql, line⟩, bounds⟩
        · obtain ⟨line, bounds⟩ := parseSlash_spec sees.1 parsed
          exact ⟨.inr ⟨rfl, same ▸ oracle, line⟩, bounds⟩
      obtain ⟨line, inside, some⟩ := line
      have cuts : ∀ chunk kept later, (scan.splitter.lineStart = true → FreshLine kept) →
          Cuts true dialect scan.splitter.delimiter []
            ((c :: rest).drop line_used ++ future) later →
          Cuts true dialect scan.splitter.delimiter chunk (kept ++ (c :: rest ++ future))
            (statementOf dialect chunk kept (c :: rest ++ future) ++ later) := by
        intro chunk kept later fresh cuts
        rw [← split line_used, ← List.append_assoc]
        exact .batch (fresh starts) line cuts
      obtain ⟨rfl, next_held⟩ := held.cut code cuts stepped
      exact ⟨some, inside, next_held⟩

theorem accounted_kept (dialect : SplitDialect) (script : Text) :
    Kept (Accounted dialect script) where
  hold held := by
    obtain ⟨_, _, _, _, stands, _⟩ := held
    exact stands.hold
  carry held carry := by
    obtain ⟨same, chunk, kept, kept_eq, stands, so_far⟩ := held
    refine ⟨same, chunk, kept, kept_eq, ?_, so_far⟩
    exact ⟨stands.hold, stands.quote, stands.tag, stands.delimiter, stands.single, stands.bare,
      stands.line, stands.visible, stands.comments⟩
  append held append := by
    obtain ⟨same, chunk, kept, kept_eq, stands, so_far⟩ := held
    rw [append_eq append]
    refine ⟨same, chunk, kept, ?_, ?_, so_far⟩
    · rw [List.append_nil]
      exact kept_eq
    · exact ⟨stands.hold, stands.quote, stands.tag, stands.delimiter, stands.single, stands.bare,
        stands.line, stands.visible, stands.comments⟩
  turn held sees stepped := accounted_step held sees stepped

theorem accounted_new (dialect : SplitDialect) (script : Text) :
    Accounted dialect script (SqlSplitter.new dialect) [] [] script := by
  refine ⟨rfl, [], [], rfl, ?_, fun later cuts => cuts⟩
  exact {
    hold := rfl
    quote := fun none => nomatch none
    tag := fun _ none => nomatch none
    delimiter := List.cons_ne_nil _ _
    single := fun _ => ⟨rfl, rfl, rfl⟩
    bare := fun _ => ⟨rfl, rfl, rfl⟩
    line := fun _ => ⟨⟨rfl, rfl, rfl⟩, fun _ => freshLine_nil⟩
    visible := fun none => nomatch none
    comments := fun _ _ _ => rfl }

end Accounted

/-- Whatever the chunks it comes in, an accepted script is its statements, what was taken
between them, and comments. -/
theorem accept_loses_nothing (dialect : SplitDialect) (chunks : List Text)
    (out : List SqlStatement) (accepted : (SqlSplitter.new dialect).accept chunks = .ok out) :
    Cuts true dialect [';'] [] chunks.flatten (out.map SqlStatement.text) := by
  have held : Accounted dialect chunks.flatten (SqlSplitter.new dialect) [] []
      ((SqlSplitter.new dialect).carry ++ chunks.flatten) :=
    accounted_new dialect chunks.flatten
  obtain ⟨ended, cut, held, -, out_eq⟩ :=
    (accounted_kept dialect chunks.flatten).accept held accepted
  obtain ⟨same, chunk, kept, kept_eq, stands, so_far⟩ := held
  rw [List.append_nil] at kept_eq so_far
  have last := stands.statement kept_eq rfl
  rw [same] at last
  have whole := so_far _ .finish
  rw [← last, List.nil_append, ← List.map_append, ← out_eq] at whole
  exact whole

theorem procedure_accepted : Cuts true .mysql [';'] []
    "-- setup\nDELIMITER //\nSELECT 1; SELECT 2//\nDELIMITER ;\n/* done */".toList
    ["-- setup\nSELECT 1; SELECT 2".toList] :=
  accept_loses_nothing .mysql ["-- setup\nDELIMITER //\nSELECT 1; SEL".toList,
    "ECT 2//\nDELIMITER ;\n/* done */".toList] [⟨"-- setup\nSELECT 1; SELECT 2".toList, 3⟩]
    (by decide +kernel)

/-- Oracle's `/` lines are taken too. -/
theorem slash_line_taken : ¬ ∀ dialect chunks out,
    (SqlSplitter.new dialect).accept chunks = .ok out →
    Cuts false dialect [';'] [] chunks.flatten (out.map SqlStatement.text) := by
  intro loses_nothing
  have cuts := loses_nothing .oracle ["S\n/".toList] [⟨"S".toList, 1⟩] (by decide +kernel)
  rw [List.flatten_singleton, List.map_singleton] at cuts
  generalize script_eq : "S\n/".toList = script at cuts
  generalize out_eq : ["S".toList] = out at cuts
  cases cuts with
  | finish =>
    rw [← script_eq] at out_eq
    exact absurd out_eq (by decide +kernel)
  | delimiter _ =>
    have semicolon : ';' ∈ "S\n/".toList := by
      rw [script_eq]
      simp
    exact absurd semicolon (by decide)
  | batch _ line _ =>
    rcases line with ⟨mssql, _⟩ | ⟨slash, _⟩
    · cases mssql
    · cases slash
  | redelimit mysql _ _ _ _ => cases mysql

end DbFree.SqlImport
