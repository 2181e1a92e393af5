import FormatterHost.Proofs.JsonTokens

/-!
# The grammar of JSON texts

A source is a value as it is written down: every number with its digits, every string with its
escapes, every object with its members in their order.  The tokens of a source can be laid out with
any blanks between them.  The reader understands every layout of a source in the same way, and
whatever it reads as a whole is the layout of a source.
-/

namespace FormatterHost.Json

open Decimal (Apart isDigit)

/-! ## Sources -/

/-- A value as it is written down, apart from the blanks. -/
inductive Source where
  | null
  | bool (value : Bool)
  | number (number : NumberText)
  | string (pieces : List Piece)
  | array (items : List Source)
  | object (members : List (List Piece × Source))

mutual

/-- The tokens of a source. -/
def Source.tokens : Source → List (List Char)
  | .null => ["null".toList]
  | .bool true => ["true".toList]
  | .bool false => ["false".toList]
  | .number number => [number.chars]
  | .string pieces => [quoted pieces]
  | .array [] => [['['], [']']]
  | .array (item :: items) => ['['] :: (item.tokens ++ itemTokens items)
  | .object [] => [['\x7b'], ['\x7d']]
  | .object (member :: members) => ['\x7b'] :: (headTokens member ++ memberTokens members)

/-- The tokens of the items behind the first, and of the closing bracket. -/
def itemTokens : List Source → List (List Char)
  | [] => [[']']]
  | item :: items => [','] :: (item.tokens ++ itemTokens items)

/-- The tokens of one member. -/
def headTokens : List Piece × Source → List (List Char)
  | (key, value) => quoted key :: [':'] :: value.tokens

/-- The tokens of the members behind the first, and of the closing brace. -/
def memberTokens : List (List Piece × Source) → List (List Char)
  | [] => [['\x7d']]
  | member :: members => [','] :: (headTokens member ++ memberTokens members)

end

mutual

/-- What a reader makes of a source. -/
def Source.reading : Source → Reading
  | .null => .null
  | .bool value => .bool value
  | .number number => number.reading
  | .string pieces =>
    match textOf pieces with
    | .ok text => .string text
    | .error defect => .flawed (.string defect)
  | .array items => .array (itemsReading items)
  | .object members => .object (membersReading members)

def itemsReading : List Source → Items
  | [] => .closed
  | item :: items => .item item.reading (itemsReading items)

def membersReading : List (List Piece × Source) → Members
  | [] => .closed
  | (key, value) :: members => .member (textOf key) value.reading (membersReading members)

end

/-- The text consists of the tokens, with blanks before, between and behind them. -/
def Laid : List (List Char) → List Char → Prop
  | [], cs => ∀ c ∈ cs, isBlank c = true
  | token :: tokens, cs => ∃ blanks rest, (∀ c ∈ blanks, isBlank c = true) ∧
    cs = blanks ++ (token ++ rest) ∧ Laid tokens rest

/-- Tokens can be laid out without any blanks. -/
theorem laid_flatten (tokens : List (List Char)) : Laid tokens tokens.flatten := by
  induction tokens with
  | nil => exact List.forall_mem_nil _
  | cons token tokens ih => exact ⟨[], _, List.forall_mem_nil _, rfl, ih⟩

/-! ## Layouts are read -/

theorem skipBlanks_append {blanks : List Char} (blank : ∀ c ∈ blanks, isBlank c = true)
    (cs : List Char) : skipBlanks (blanks ++ cs) = skipBlanks cs :=
  List.dropWhile_append_of_pos blank

namespace Laid

/-- Behind the blanks begins the first token. -/
theorem cons {c : Char} {token cs : List Char} {tokens : List (List Char)}
    (laid : Laid ((c :: token) :: tokens) cs) (visible : isBlank c = false) :
    ∃ rest, skipBlanks cs = c :: (token ++ rest) ∧ Laid tokens rest ∧
      token.length + rest.length < cs.length := by
  obtain ⟨blanks, rest, blank, rfl, laid⟩ := laid
  refine ⟨rest, ?_, laid, ?_⟩
  · rw [skipBlanks_append blank, List.cons_append, skipBlanks_cons visible]
  · simp only [List.length_append, List.length_cons]
    omega

end Laid

/-- The tokens that can follow a value. -/
def Follow (tokens : List (List Char)) : Prop :=
  tokens = [] ∨ ∃ c rest, tokens = [c] :: rest ∧ (c = ',' ∨ c = ']' ∨ c = '\x7d')

theorem follow_itemTokens (items : List Source) (more : List (List Char)) :
    Follow (itemTokens items ++ more) := by
  cases items with
  | nil => exact .inr ⟨_, _, rfl, .inr (.inl rfl)⟩
  | cons item items => exact .inr ⟨_, _, rfl, .inl rfl⟩

theorem follow_memberTokens (members : List (List Piece × Source)) (more : List (List Char)) :
    Follow (memberTokens members ++ more) := by
  cases members with
  | nil => exact .inr ⟨_, _, rfl, .inr (.inr rfl)⟩
  | cons member members => exact .inr ⟨_, _, rfl, .inl rfl⟩

/-- What follows a value does not belong to a number. -/
theorem Follow.apart {tokens : List (List Char)} (follow : Follow tokens) {rest : List Char}
    (laid : Laid tokens rest) : Apart rest := by
  have blank : ∀ {c : Char}, isBlank c = true →
      isDigit c = false ∧ c ≠ '.' ∧ c ≠ 'e' ∧ c ≠ 'E' := by
    intro c blank
    simp only [isBlank, Bool.or_eq_true, beq_iff_eq] at blank
    rcases blank with ((rfl | rfl) | rfl) | rfl <;> decide
  rintro c cs rfl
  rcases follow with rfl | ⟨d, more, rfl, separates⟩
  · exact blank (laid c List.mem_cons_self)
  · obtain ⟨blanks, rest, blanks_blank, same, -⟩ := laid
    cases blanks with
    | nil =>
        obtain ⟨rfl, -⟩ := List.cons.inj same
        rcases separates with rfl | rfl | rfl <;> decide
    | cons b blanks =>
        obtain ⟨rfl, -⟩ := List.cons.inj same
        exact blank (blanks_blank c List.mem_cons_self)

theorem readValue_of_skipBlanks {c : Char} {cs tail : List Char}
    (begins : skipBlanks cs = c :: tail) (visible : isBlank c = false) (fuel : Nat) :
    readValue fuel cs = readValue fuel (c :: tail) := by
  cases fuel with
  | zero => rfl
  | succ fuel => rw [readValue, readValue, begins, skipBlanks_cons visible]

/-- A number begins with a character of its own. -/
theorem NumberText.chars_head (number : NumberText) :
    ∃ c token, number.chars = c :: token ∧ isBlank c = false ∧ c ≠ ']' ∧ c ≠ '\x7b' := by
  obtain ⟨d, ds, written⟩ := List.exists_cons_of_ne_nil number.nonempty
  have digit : isDigit d = true :=
    number.digital d (List.mem_append_left _ (written ▸ List.mem_cons_self))
  rw [chars]
  split
  · exact ⟨'-', _, rfl, by decide, by decide, by decide⟩
  · refine ⟨d, _, by rw [body, written]; rfl, isBlank_of_isDigit digit, ?_, ?_⟩ <;>
    · rintro rfl
      cases digit

/-- A source begins with a token that is neither blank nor a closing bracket. -/
theorem Source.tokens_head (source : Source) : ∃ c token tokens,
    source.tokens = (c :: token) :: tokens ∧ isBlank c = false ∧ c ≠ ']' := by
  cases source with
  | null => exact ⟨_, _, _, rfl, by decide, by decide⟩
  | bool value => cases value <;> exact ⟨_, _, _, rfl, by decide, by decide⟩
  | number number =>
      obtain ⟨c, token, begins, visible, other, -⟩ := number.chars_head
      exact ⟨c, token, [], by rw [tokens, begins], visible, other⟩
  | string pieces => exact ⟨_, _, _, rfl, by decide, by decide⟩
  | array items => cases items <;> exact ⟨_, _, _, rfl, by decide, by decide⟩
  | object members => cases members <;> exact ⟨_, _, _, rfl, by decide, by decide⟩

theorem readItems_of_begins {c : Char} {fuel : Nat} {cs start tail rest : List Char}
    {head : Reading} {items : Items} (begins : skipBlanks cs = c :: start)
    (visible : isBlank c = false) (other : c ≠ ']')
    (read : readValue fuel cs = (head, some tail))
    (readMore : readMoreItems fuel tail = (items, some rest)) :
    readItems (fuel + 1) cs = (.item head items, some rest) := by
  rw [readValue_of_skipBlanks begins visible] at read
  rw [readItems, begins]
  simp only [other, if_false, read, readMore]

theorem readMoreItems_of_comma {fuel : Nat} {cs start tail rest : List Char} {head : Reading}
    {items : Items} (begins : skipBlanks cs = ',' :: start)
    (read : readValue fuel start = (head, some tail))
    (readMore : readMoreItems fuel tail = (items, some rest)) :
    readMoreItems (fuel + 1) cs = (.item head items, some rest) := by
  have comma : ¬ (',' = ']') := by decide
  rw [readMoreItems, begins]
  simp only [comma, if_false, if_true, read, readMore]

theorem readMember_of_quoted {fuel : Nat} {pieces : List Piece}
    {cs behind start tail rest : List Char} {value : Reading} {members : Members}
    (begins : skipBlanks cs = '"' :: (pieces.flatMap Piece.chars ++ '"' :: behind))
    (colon : skipBlanks behind = ':' :: start)
    (read : readValue fuel start = (value, some tail))
    (readMore : readMoreMembers (fuel + 1) tail = (members, some rest)) :
    readMember (fuel + 2) cs = (.member (textOf pieces) value members, some rest) := by
  have readBehind : readMemberValue (fuel + 1) behind = (value, some tail) := by
    rw [readMemberValue, colon]
    exact read
  rw [readMember, begins]
  simp only [if_true, readString_pieces, readBehind, readMore]

theorem readMembers_of_quotation {fuel : Nat} {cs start : List Char}
    (begins : skipBlanks cs = '"' :: start) :
    readMembers (fuel + 1) cs = readMember fuel cs := by
  have other : ¬ ('"' = '\x7d') := by decide
  have same : readMember fuel ('"' :: start) = readMember fuel cs := by
    cases fuel with
    | zero => rfl
    | succ fuel => rw [readMember, readMember, begins, skipBlanks_cons (by decide)]
  rw [readMembers, begins]
  simp only [other, if_false, same]

/-- What is read of a text, up to a rest that is laid out as the tokens `more`. -/
def ReadsUpTo {α : Type} (outcome : α × Option (List Char)) (read : α)
    (more : List (List Char)) (size : Nat) : Prop :=
  ∃ rest, outcome = (read, some rest) ∧ Laid more rest ∧ rest.length < size

-- As for printed values, the induction is on the fuel, and the bound keeps it above what is left of
-- the text.
mutual

/-- However a value is laid out, it is read. -/
theorem readValue_laid (source : Source) {more : List (List Char)} (follow : Follow more)
    {cs : List Char} (laid : Laid (source.tokens ++ more) cs) {fuel : Nat}
    (enough : 4 * cs.length < fuel) :
    ReadsUpTo (readValue fuel cs) source.reading more cs.length := by
  obtain ⟨fuel, rfl⟩ : ∃ n, fuel = n + 1 := ⟨fuel - 1, by omega⟩
  cases source with
  | null =>
      obtain ⟨rest, begins, laid, shorter⟩ := laid.cons (by decide)
      exact ⟨rest, by rw [readValue, begins]; rfl, laid, by omega⟩
  | bool value =>
      cases value <;>
      · obtain ⟨rest, begins, laid, shorter⟩ := laid.cons (by decide)
        exact ⟨rest, by rw [readValue, begins]; rfl, laid, by omega⟩
  | number number =>
      obtain ⟨c, token, written, visible, -⟩ := number.chars_head
      rw [Source.tokens, written] at laid
      obtain ⟨rest, begins, laid, shorter⟩ := laid.cons visible
      have read := number.readValue_chars (follow.apart laid) fuel
      rw [written, List.cons_append] at read
      exact ⟨rest, (readValue_of_skipBlanks begins visible _).trans read, laid, by omega⟩
  | string pieces =>
      obtain ⟨rest, begins, laid, shorter⟩ := laid.cons (by decide)
      rw [List.append_assoc] at begins
      refine ⟨rest, ?_, laid, by omega⟩
      rw [readValue, begins]
      simp only [if_true, readText, List.singleton_append, readString_pieces, Source.reading]
      cases textOf pieces <;> rfl
  | array items =>
      cases items with
      | nil =>
          obtain ⟨start, begins, laid, shorter⟩ := laid.cons (by decide)
          obtain ⟨rest, ends, laid, shorter'⟩ := laid.cons (by decide)
          obtain ⟨fuel, rfl⟩ : ∃ n, fuel = n + 1 := ⟨fuel - 1, by omega⟩
          have closed : readItems (fuel + 1) start = (.closed, some rest) := by
            rw [readItems, ends]
            rfl
          rw [List.nil_append] at begins
          refine ⟨rest, ?_, laid, by omega⟩
          rw [readValue_of_skipBlanks begins (by decide), readValue_bracket, closed]
          rfl
      | cons item items =>
          rw [Source.tokens, List.cons_append, List.append_assoc] at laid
          obtain ⟨start, begins, laid, shorter⟩ := laid.cons (by decide)
          rw [List.nil_append] at begins
          obtain ⟨fuel, rfl⟩ : ∃ n, fuel = n + 1 := ⟨fuel - 1, by omega⟩
          obtain ⟨tail, read, laidTail, shorterTail⟩ :=
            readValue_laid item (follow_itemTokens items more) laid
              (show 4 * start.length < fuel by omega)
          obtain ⟨rest, readMore, laidRest, shorterRest⟩ :=
            readMoreItems_laid items laidTail (show 4 * tail.length < fuel by omega)
          obtain ⟨c, token, tokens, head, visible, other⟩ := item.tokens_head
          rw [head] at laid
          obtain ⟨_, beginsItem, -, -⟩ := laid.cons visible
          refine ⟨rest, ?_, laidRest, by omega⟩
          rw [readValue_of_skipBlanks begins (by decide), readValue_bracket,
            readItems_of_begins beginsItem visible other read readMore]
          rfl
  | object members =>
      cases members with
      | nil =>
          obtain ⟨start, begins, laid, shorter⟩ := laid.cons (by decide)
          obtain ⟨rest, ends, laid, shorter'⟩ := laid.cons (by decide)
          obtain ⟨fuel, rfl⟩ : ∃ n, fuel = n + 1 := ⟨fuel - 1, by omega⟩
          have closed : readMembers (fuel + 1) start = (.closed, some rest) := by
            rw [readMembers, ends]
            rfl
          rw [List.nil_append] at begins
          refine ⟨rest, ?_, laid, by omega⟩
          rw [readValue_of_skipBlanks begins (by decide), readValue_brace, closed]
          rfl
      | cons member members =>
          rw [Source.tokens, List.cons_append, List.append_assoc] at laid
          obtain ⟨start, begins, laid, shorter⟩ := laid.cons (by decide)
          rw [List.nil_append] at begins
          obtain ⟨fuel, rfl⟩ : ∃ n, fuel = n + 1 := ⟨fuel - 1, by omega⟩
          obtain ⟨rest, read, laidRest, shorterRest⟩ :=
            readMember_laid member members laid (show 4 * start.length < fuel by omega)
          obtain ⟨key, value⟩ := member
          obtain ⟨_, beginsMember, -, -⟩ := laid.cons (by decide)
          refine ⟨rest, ?_, laidRest, by omega⟩
          rw [readValue_of_skipBlanks begins (by decide), readValue_brace,
            readMembers_of_quotation beginsMember, read]
          rfl
termination_by fuel

theorem readMoreItems_laid (items : List Source) {more : List (List Char)} {cs : List Char}
    (laid : Laid (itemTokens items ++ more) cs) {fuel : Nat} (enough : 4 * cs.length < fuel) :
    ReadsUpTo (readMoreItems fuel cs) (itemsReading items) more cs.length := by
  obtain ⟨fuel, rfl⟩ : ∃ n, fuel = n + 1 := ⟨fuel - 1, by omega⟩
  cases items with
  | nil =>
      obtain ⟨rest, ends, laid, shorter⟩ := laid.cons (by decide)
      refine ⟨rest, ?_, laid, by omega⟩
      rw [readMoreItems, ends]
      rfl
  | cons item items =>
      rw [itemTokens, List.cons_append, List.append_assoc] at laid
      obtain ⟨start, begins, laid, shorter⟩ := laid.cons (by decide)
      rw [List.nil_append] at begins
      obtain ⟨tail, read, laid, shorterTail⟩ :=
        readValue_laid item (follow_itemTokens items more) laid
          (show 4 * start.length < fuel by omega)
      obtain ⟨rest, readMore, laid, shorterRest⟩ :=
        readMoreItems_laid items laid (show 4 * tail.length < fuel by omega)
      exact ⟨rest, readMoreItems_of_comma begins read readMore, laid, by omega⟩
termination_by fuel

theorem readMember_laid (member : List Piece × Source) (members : List (List Piece × Source))
    {more : List (List Char)} {cs : List Char}
    (laid : Laid (headTokens member ++ (memberTokens members ++ more)) cs) {fuel : Nat}
    (enough : 4 * cs.length < fuel) :
    ReadsUpTo (readMember fuel cs) (membersReading (member :: members)) more cs.length := by
  obtain ⟨key, value⟩ := member
  obtain ⟨behind, begins, laid, shorter⟩ := laid.cons (by decide)
  obtain ⟨start, colon, laid, shorterStart⟩ := laid.cons (by decide)
  obtain ⟨fuel, rfl⟩ : ∃ n, fuel = n + 2 := ⟨fuel - 2, by omega⟩
  rw [List.append_assoc, List.singleton_append] at begins
  rw [List.nil_append] at colon
  obtain ⟨tail, read, laid, shorterTail⟩ :=
    readValue_laid value (follow_memberTokens members more) laid
      (show 4 * start.length < fuel by omega)
  obtain ⟨rest, readMore, laid, shorterRest⟩ :=
    readMoreMembers_laid members laid (show 4 * tail.length < fuel + 1 by omega)
  exact ⟨rest, readMember_of_quoted begins colon read readMore, laid, by omega⟩
termination_by fuel

theorem readMoreMembers_laid (members : List (List Piece × Source)) {more : List (List Char)}
    {cs : List Char} (laid : Laid (memberTokens members ++ more) cs) {fuel : Nat}
    (enough : 4 * cs.length < fuel) :
    ReadsUpTo (readMoreMembers fuel cs) (membersReading members) more cs.length := by
  obtain ⟨fuel, rfl⟩ : ∃ n, fuel = n + 1 := ⟨fuel - 1, by omega⟩
  cases members with
  | nil =>
      obtain ⟨rest, ends, laid, shorter⟩ := laid.cons (by decide)
      refine ⟨rest, ?_, laid, by omega⟩
      rw [readMoreMembers, ends]
      rfl
  | cons member members =>
      rw [memberTokens, List.cons_append, List.append_assoc] at laid
      obtain ⟨start, begins, laid, shorter⟩ := laid.cons (by decide)
      rw [List.nil_append] at begins
      obtain ⟨rest, read, laid, shorterRest⟩ :=
        readMember_laid member members laid (show 4 * start.length < fuel by omega)
      refine ⟨rest, ?_, laid, by omega⟩
      rw [readMoreMembers, begins]
      exact read
termination_by fuel

end

/-- Every layout of a source is read as a whole, and in the same way. -/
theorem ofChars_laid {source : Source} {cs : List Char} (laid : Laid source.tokens cs) :
    ∃ rest, Reading.ofChars cs = (source.reading, some rest) ∧ skipBlanks rest = [] := by
  have enough : 4 * cs.length < readingFuel cs := by
    rw [readingFuel]
    omega
  rw [← List.append_nil source.tokens] at laid
  obtain ⟨rest, read, blank, -⟩ := readValue_laid source (.inl rfl) laid enough
  refine ⟨rest, read, ?_⟩
  have skipped := skipBlanks_append blank []
  rw [List.append_nil] at skipped
  exact skipped

/-! ## Sources are passed over -/

theorem NumberText.skip_reading (number : NumberText) : number.reading.skip = .ok () := by
  rw [reading]
  cases number.numeral.number? number.negative <;> rfl

mutual

/-- Passing over a source never fails, whatever its numbers and its strings stand for. -/
theorem Source.skip_reading : (source : Source) → source.reading.skip = .ok ()
  | .null | .bool _ => rfl
  | .number number => number.skip_reading
  | .string pieces => by
    rw [Source.reading, textOf]
    cases spelled? pieces <;> rfl
  | .array items => skip_itemsReading items
  | .object members => skip_membersReading members

theorem skip_itemsReading : (items : List Source) → (itemsReading items).skip = .ok ()
  | [] => rfl
  | item :: items => by
    rw [itemsReading, Items.skip, item.skip_reading]
    exact skip_itemsReading items

theorem skip_membersReading :
    (members : List (List Piece × Source)) → (membersReading members).skip = .ok ()
  | [] => rfl
  | (key, value) :: members => by
    have rest := skip_membersReading members
    rw [membersReading, textOf]
    cases spelled? key <;> simp only [Members.skip, value.skip_reading, rest]

end

/-! ## Sources that are read -/

theorem readWord_eq {reading outcome : Reading} {flaw : Fault → Flaw} {word cs rest : List Char}
    (read : readWord reading flaw word cs = (outcome, some rest)) :
    outcome = reading ∧ cs = word ++ rest := by
  induction word generalizing cs with
  | nil =>
      cases read
      exact ⟨rfl, rfl⟩
  | cons w word ih =>
      cases cs with
      | nil => cases read
      | cons c cs =>
          rw [readWord] at read
          split at read
          · rename_i same
            obtain ⟨rfl, rfl⟩ := ih read
            exact ⟨rfl, by rw [same]; rfl⟩
          · cases read

/-- The text is laid out as the tokens up to a rest. -/
def Spans (tokens : List (List Char)) (cs rest : List Char) : Prop :=
  ∀ more, Laid more rest → Laid (tokens ++ more) cs

theorem Laid.of_skipBlanks {tokens : List (List Char)} {cs : List Char}
    (laid : Laid tokens (skipBlanks cs)) : Laid tokens cs := by
  have split : cs.takeWhile isBlank ++ skipBlanks cs = cs := List.takeWhile_append_dropWhile
  have blank : ∀ c ∈ cs.takeWhile isBlank, isBlank c = true :=
    List.all_eq_true.mp List.all_takeWhile
  cases tokens with
  | nil =>
      intro c mem
      rw [← split] at mem
      exact (List.mem_append.mp mem).elim (blank c) (laid c)
  | cons token tokens =>
      obtain ⟨blanks, rest, blank', same, laid⟩ := laid
      refine ⟨cs.takeWhile isBlank ++ blanks, rest, fun c mem => ?_, ?_, laid⟩
      · exact (List.mem_append.mp mem).elim (blank c) (blank' c)
      · rw [List.append_assoc, ← same, split]

namespace Spans

variable {tokens others : List (List Char)} {cs tail rest : List Char}

theorem append (first : Spans tokens cs tail) (second : Spans others tail rest) :
    Spans (tokens ++ others) cs rest := by
  intro more laid
  rw [List.append_assoc]
  exact first _ (second more laid)

/-- A token behind blanks. -/
theorem token {c : Char} {token : List Char} (begins : skipBlanks cs = c :: (token ++ rest)) :
    Spans [c :: token] cs rest := by
  intro more laid
  refine ⟨cs.takeWhile isBlank, rest, fun d mem => ?_, ?_, laid⟩
  · exact List.all_eq_true.mp List.all_takeWhile d mem
  · rw [List.cons_append, ← begins]
    exact List.takeWhile_append_dropWhile.symm

/-- A token of one character, and what stands behind it. -/
theorem cons {c : Char} (begins : skipBlanks cs = c :: tail) (behind : Spans tokens tail rest) :
    Spans ([c] :: tokens) cs rest :=
  append (Spans.token begins) behind

theorem behind_blanks (spans : Spans tokens (skipBlanks cs) rest) : Spans tokens cs rest :=
  fun more laid => (spans more laid).of_skipBlanks

end Spans

theorem exists_colon {fuel : Nat} {cs rest : List Char} {value : Reading}
    (read : readMemberValue fuel cs = (value, some rest)) :
    ∃ less tail, fuel = less + 1 ∧ skipBlanks cs = ':' :: tail ∧
      readValue less tail = (value, some rest) := by
  cases fuel with
  | zero => cases read
  | succ fuel =>
      rw [readMemberValue] at read
      split at read
      · cases read
      · rename_i c tail begins
        split at read
        · rename_i colon
          exact ⟨fuel, tail, rfl, by rw [begins, colon], read⟩
        · cases read

theorem exists_string_of_readText {cs rest : List Char} {reading : Reading}
    (read : readText cs = (reading, some rest)) :
    ∃ pieces : List Piece, cs = pieces.flatMap Piece.chars ++ '"' :: rest ∧
      (Source.string pieces).reading = reading := by
  obtain ⟨outcome, found⟩ : ∃ outcome, readString cs = (outcome, some rest) := by
    unfold readText at read
    split at read <;> rename_i found <;> cases read <;> exact ⟨_, found⟩
  obtain ⟨pieces, same, rfl⟩ := exists_pieces_of_readString found
  refine ⟨pieces, same, ?_⟩
  rw [readText, found] at read
  rw [Source.reading]
  cases text : textOf pieces <;> rw [text] at read <;> cases read <;> rfl

/-- Whatever is read as a single value is one. -/
theorem exists_scalar {fuel : Nat} {c : Char} {cs behind rest : List Char} {reading : Reading}
    (begins : skipBlanks cs = c :: behind) (bracket : c ≠ '[') (brace : c ≠ '\x7b')
    (read : readValue (fuel + 1) cs = (reading, some rest)) :
    ∃ source : Source, source.reading = reading ∧ Spans source.tokens cs rest := by
  rw [readValue, begins] at read
  simp only [bracket, brace, if_false] at read
  split at read
  · rename_i quotation
    obtain ⟨pieces, rfl, same⟩ := exists_string_of_readText read
    refine ⟨.string pieces, same, .token ?_⟩
    rw [begins, quotation, List.append_assoc, List.singleton_append]
  · split at read
    · rename_i initial
      obtain ⟨rfl, rfl⟩ := readWord_eq read
      exact ⟨.null, rfl, .token (by rw [begins, initial]; rfl)⟩
    · split at read
      · rename_i initial
        obtain ⟨rfl, rfl⟩ := readWord_eq read
        exact ⟨.bool true, rfl, .token (by rw [begins, initial]; rfl)⟩
      · split at read
        · rename_i initial
          obtain ⟨rfl, rfl⟩ := readWord_eq read
          exact ⟨.bool false, rfl, .token (by rw [begins, initial]; rfl)⟩
        · split at read
          · rename_i minus
            obtain ⟨number, negative, rfl, same⟩ := exists_number_of_readNumber read
            refine ⟨.number number, same, ?_⟩
            rw [Source.tokens, NumberText.chars, if_pos negative]
            exact .token (by rw [begins, minus])
          · split at read
            · obtain ⟨number, negative, written, same⟩ := exists_number_of_readNumber read
              obtain ⟨d, ds, integer⟩ := List.exists_cons_of_ne_nil number.nonempty
              rw [NumberText.body, integer, List.cons_append, List.cons_append] at written
              refine ⟨.number number, same, ?_⟩
              rw [Source.tokens, NumberText.chars, negative, if_neg Bool.false_ne_true,
                NumberText.body, integer]
              exact .token (begins.trans written)
            · cases read

-- Once more the readers call each other with less fuel every time.
mutual

/-- Whatever is read as a value is the layout of a source. -/
theorem exists_source {fuel : Nat} {cs rest : List Char} {reading : Reading}
    (read : readValue fuel cs = (reading, some rest)) :
    ∃ source : Source, source.reading = reading ∧ Spans source.tokens cs rest := by
  cases fuel with
  | zero => cases read
  | succ fuel =>
      cases begins : skipBlanks cs with
      | nil =>
          rw [readValue, begins] at read
          cases read
      | cons c behind =>
          by_cases bracket : c = '['
          · subst bracket
            rw [readValue_of_skipBlanks begins (by decide), readValue_bracket] at read
            obtain ⟨rfl, ends⟩ := Prod.mk.inj read
            have readRest : readItems fuel behind = (_, some rest) := Prod.ext rfl ends
            obtain ⟨items, same, spans⟩ := exists_items readRest
            refine ⟨.array items, congrArg Reading.array same, ?_⟩
            cases items <;> exact .cons begins spans
          · by_cases brace : c = '\x7b'
            · subst brace
              rw [readValue_of_skipBlanks begins (by decide), readValue_brace] at read
              obtain ⟨rfl, ends⟩ := Prod.mk.inj read
              have readRest : readMembers fuel behind = (_, some rest) := Prod.ext rfl ends
              obtain ⟨members, same, spans⟩ := exists_members readRest
              refine ⟨.object members, congrArg Reading.object same, ?_⟩
              cases members <;> exact .cons begins spans
            · exact exists_scalar begins bracket brace read
termination_by fuel

theorem exists_items {fuel : Nat} {cs rest : List Char} {items : Items}
    (read : readItems fuel cs = (items, some rest)) :
    ∃ sources, itemsReading sources = items ∧ Spans (Source.array sources).tokens.tail cs rest := by
  cases fuel with
  | zero => cases read
  | succ fuel =>
      rw [readItems] at read
      split at read
      · cases read
      · rename_i c behind begins
        split at read
        · rename_i closes
          cases read
          exact ⟨[], rfl, .token (by rw [begins, closes]; rfl)⟩
        · split at read
          · cases read
          · rename_i head tail readHead
            obtain ⟨rfl, ends⟩ := Prod.mk.inj read
            obtain ⟨source, rfl, spans⟩ := exists_source readHead
            have readRest : readMoreItems fuel tail = (_, some rest) := Prod.ext rfl ends
            obtain ⟨sources, same, spans'⟩ := exists_moreItems readRest
            rw [← begins] at spans
            exact ⟨source :: sources, congrArg (Items.item source.reading) same,
              spans.behind_blanks.append spans'⟩
termination_by fuel

theorem exists_moreItems {fuel : Nat} {cs rest : List Char} {items : Items}
    (read : readMoreItems fuel cs = (items, some rest)) :
    ∃ sources, itemsReading sources = items ∧ Spans (itemTokens sources) cs rest := by
  cases fuel with
  | zero => cases read
  | succ fuel =>
      rw [readMoreItems] at read
      split at read
      · cases read
      · rename_i c behind begins
        split at read
        · rename_i closes
          cases read
          exact ⟨[], rfl, .token (by rw [begins, closes]; rfl)⟩
        · split at read
          · rename_i comma
            split at read
            · cases read
            · rename_i head tail readHead
              obtain ⟨rfl, ends⟩ := Prod.mk.inj read
              obtain ⟨source, rfl, spans⟩ := exists_source readHead
              have readRest : readMoreItems fuel tail = (_, some rest) := Prod.ext rfl ends
              obtain ⟨sources, same, spans'⟩ := exists_moreItems readRest
              rw [comma] at begins
              exact ⟨source :: sources, congrArg (Items.item source.reading) same,
                .cons begins (spans.append spans')⟩
          · cases read
termination_by fuel

theorem exists_members {fuel : Nat} {cs rest : List Char} {members : Members}
    (read : readMembers fuel cs = (members, some rest)) :
    ∃ sources, membersReading sources = members ∧
      Spans (Source.object sources).tokens.tail cs rest := by
  cases fuel with
  | zero => cases read
  | succ fuel =>
      rw [readMembers] at read
      split at read
      · cases read
      · rename_i c behind begins
        split at read
        · rename_i closes
          cases read
          exact ⟨[], rfl, .token (by rw [begins, closes]; rfl)⟩
        · obtain ⟨source, sources, same, spans⟩ := exists_member read
          rw [← begins] at spans
          exact ⟨source :: sources, same, spans.behind_blanks⟩
termination_by fuel

theorem exists_member {fuel : Nat} {cs rest : List Char} {members : Members}
    (read : readMember fuel cs = (members, some rest)) :
    ∃ source sources, membersReading (source :: sources) = members ∧
      Spans (headTokens source ++ memberTokens sources) cs rest := by
  cases fuel with
  | zero => cases read
  | succ fuel =>
      rw [readMember] at read
      split at read
      · cases read
      · rename_i c behind begins
        split at read
        · rename_i quotation
          split at read
          · cases read
          · rename_i name after found
            split at read
            · cases read
            · rename_i value tail readAfter
              obtain ⟨rfl, ends⟩ := Prod.mk.inj read
              obtain ⟨key, rfl, rfl⟩ := exists_pieces_of_readString found
              obtain ⟨less, start, rfl, colon, readValue⟩ := exists_colon readAfter
              obtain ⟨source, rfl, spans⟩ := exists_source readValue
              have readRest : readMoreMembers (less + 1) tail = (_, some rest) := Prod.ext rfl ends
              obtain ⟨sources, same, spans'⟩ := exists_moreMembers readRest
              refine ⟨(key, source), sources,
                congrArg (Members.member (textOf key) source.reading) same, ?_⟩
              have spansKey : Spans [quoted key] cs after := by
                apply Spans.token
                rw [begins, quotation, List.append_assoc, List.singleton_append]
              exact (spansKey.append (.cons colon spans)).append spans'
        · cases read
termination_by fuel

theorem exists_moreMembers {fuel : Nat} {cs rest : List Char} {members : Members}
    (read : readMoreMembers fuel cs = (members, some rest)) :
    ∃ sources, membersReading sources = members ∧ Spans (memberTokens sources) cs rest := by
  cases fuel with
  | zero => cases read
  | succ fuel =>
      rw [readMoreMembers] at read
      split at read
      · cases read
      · rename_i c behind begins
        split at read
        · rename_i closes
          cases read
          exact ⟨[], rfl, .token (by rw [begins, closes]; rfl)⟩
        · split at read
          · rename_i comma
            obtain ⟨source, sources, same, spans⟩ := exists_member read
            rw [comma] at begins
            exact ⟨source :: sources, same, .cons begins spans⟩
          · cases read
termination_by fuel

end

/-- A text is read as a whole exactly if it is the layout of a source. -/
theorem ofChars_eq_iff {cs : List Char} {reading : Reading} :
    (∃ rest, Reading.ofChars cs = (reading, some rest) ∧ skipBlanks rest = []) ↔
      ∃ source : Source, source.reading = reading ∧ Laid source.tokens cs := by
  constructor
  · rintro ⟨rest, read, blank⟩
    obtain ⟨source, same, spans⟩ := exists_source read
    have ends : Laid [] rest := Laid.of_skipBlanks (by rw [blank]; exact List.forall_mem_nil _)
    have laid := spans [] ends
    rw [List.append_nil] at laid
    exact ⟨source, same, laid⟩
  · rintro ⟨source, rfl, laid⟩
    exact ofChars_laid laid

end FormatterHost.Json
