import OrgGovernance.Proofs.Json.Token

/-!
# Values come back from their text

A value is legible when its strings and keys may stand between quotes and its
numbers are natural numbers in digits. Its text, with or without layout, spells
its tokens, and the reader builds the value from them again.
-/

namespace OrgGovernance.Json

/-- A function that puts a mark between the parts of items intercalates the mark. -/
theorem eq_intercalate {α β : Type} {f : List α → List β} {part : α → List β} {mark : β}
    (none : f [] = []) (one : ∀ a, f [a] = part a)
    (more : ∀ a b rest, f (a :: b :: rest) = part a ++ mark :: f (b :: rest)) (items : List α) :
    f items = [mark].intercalate (items.map part) := by
  induction items with
  | nil => exact none
  | cons a rest ih =>
    cases rest with
    | nil =>
      rw [one]
      simp [List.intercalate]
    | cons b rest =>
      rw [more, ih]
      simp [List.intercalate]

/-- The tokens of elements are those of each, with commas between them. -/
theorem elementTokens_eq (elements : List Json) :
    elementTokens elements = [.comma].intercalate (elements.map tokens) :=
  eq_intercalate rfl (fun _ => rfl) (fun _ _ _ => rfl) elements

/-- The tokens of members are those of each, with commas between them. -/
theorem memberTokens_eq (members : List (List Char × Json)) :
    memberTokens members =
      [.comma].intercalate (members.map fun m => .string m.1 :: .colon :: m.2.tokens) :=
  eq_intercalate rfl (fun _ => rfl) (fun _ _ _ => rfl) members

/-- The lines of elements are those of each, with commas between them. -/
theorem elementLines_eq (level : Nat) (elements : List Json) :
    elementLines level elements =
      [','].intercalate (elements.map fun e => newLine level ++ e.laidOut level) :=
  eq_intercalate rfl (fun _ => rfl) (fun _ _ _ => rfl) elements

/-- The lines of members are those of each, with commas between them. -/
theorem memberLines_eq (level : Nat) (members : List (List Char × Json)) :
    memberLines level members =
      [','].intercalate (members.map fun m =>
        newLine level ++ ((Token.string m.1).text ++ ':' :: ' ' :: m.2.laidOut level)) := by
  refine eq_intercalate rfl ?_ ?_ members
  · exact fun m => List.append_assoc _ _ _
  · intro m m' rest
    simp only [memberLines, List.append_assoc, List.cons_append]

/-- The characters of intercalated tokens are the intercalated characters. -/
theorem flatMap_intercalate {α β : Type} (f : α → List β) (mark : α) (parts : List (List α)) :
    ([mark].intercalate parts).flatMap f = (f mark).intercalate (parts.map (·.flatMap f)) := by
  induction parts with
  | nil => rfl
  | cons a rest ih =>
    cases rest with
    | nil => simp [List.intercalate]
    | cons b rest =>
      simp only [List.intercalate, List.intersperse_cons_cons, List.flatten_cons, List.map_cons,
        List.flatMap_append] at ih ⊢
      rw [ih]
      simp

/-- A line break and its indentation are blank. -/
theorem isBlank_of_mem_newLine (level : Nat) : ∀ c ∈ newLine level, isBlank c = true := by
  intro c member
  rcases List.mem_cons.mp member with rfl | member
  · rfl
  · rw [List.eq_of_mem_replicate member]
    rfl

namespace Writes

variable {α : Type} {items : List α} {written : α → List Char} {spelled : α → List Token}

/-- Parts of items spell the tokens of all items, with commas between them. -/
theorem commas (h : ∀ a ∈ items, Writes (written a) (spelled a)) :
    Writes (Token.comma.text.intercalate (items.map written))
      ([.comma].intercalate (items.map spelled)) := by
  induction items with
  | nil => exact .nil
  | cons a rest ih =>
    obtain ⟨first, later⟩ := List.forall_mem_cons.mp h
    cases rest with
    | nil => simpa [List.intercalate] using first
    | cons b rest =>
      have comma : Definite .comma := .fixed _ nofun nofun
      have both := first.append (comma.before (ih later)) fun _ _ => rfl
      simpa [List.intercalate] using both

/-- Between two tokens, parts of items spell the tokens of all items, with commas between them
and blanks behind them. -/
theorem listed {opening closing : Token} (opens : Definite opening) (closes : Definite closing)
    (h : ∀ a ∈ items, Writes (written a) (spelled a)) {blanks : List Char}
    (blank : ∀ c ∈ blanks, isBlank c = true)
    (apart : ∀ text, endsNumber (blanks ++ closing.text ++ text) = true) :
    Writes (opening.text ++ Token.comma.text.intercalate (items.map written) ++ blanks ++
        closing.text)
      (opening :: [.comma].intercalate (items.map spelled) ++ [closing]) := by
  have inside := (commas h).append (closes.writes.blanks blank) fun text _ => apart text
  rw [List.append_assoc, List.append_assoc, List.cons_append]
  exact opens.before inside

end Writes

/-- Values whose strings and keys may stand between quotes and whose numbers are natural numbers
in digits. -/
inductive Legible : Json → Prop
  /-- No value is legible. -/
  | null : Legible .null
  /-- A truth value is legible. -/
  | bool (value : Bool) : Legible (.bool value)
  /-- The digits of a natural number are legible. -/
  | number (n : Nat) : Legible (.number (Nat.toDigits 10 n))
  /-- What may stand between quotes is legible as a string. -/
  | string {written : List Char} (quotable : Quotable written) : Legible (.string written)
  /-- An array of legible elements is legible. -/
  | array {elements : List Json} (values : ∀ e ∈ elements, Legible e) : Legible (.array elements)
  /-- An object of legible members is legible. -/
  | object {members : List (List Char × Json)} (keys : ∀ m ∈ members, Quotable m.1)
    (values : ∀ m ∈ members, Legible m.2) : Legible (.object members)

namespace Legible

/-- A legible value is spelled without layout and with the layout of every level. -/
theorem writes {j : Json} (h : Legible j) :
    Writes (j.tokens.flatMap Token.text) j.tokens ∧ ∀ level, Writes (j.laidOut level) j.tokens := by
  have single {t : Token} (ht : Writes t.text [t]) :
      Writes ([t].flatMap Token.text) [t] ∧ ∀ _level : Nat, Writes t.text [t] :=
    ⟨by rwa [List.flatMap_singleton], fun _ => ht⟩
  have bare : ∀ c ∈ ([] : List Char), isBlank c = true := List.forall_mem_nil _
  have openBracket : Definite .openBracket := .fixed _ nofun nofun
  have closeBracket : Definite .closeBracket := .fixed _ nofun nofun
  have openBrace : Definite .openBrace := .fixed _ nofun nofun
  have closeBrace : Definite .closeBrace := .fixed _ nofun nofun
  have colon : Definite .colon := .fixed _ nofun nofun
  induction h with
  | null => exact single (Definite.fixed .null nofun nofun).writes
  | bool value => exact single (Definite.fixed (.bool value) nofun nofun).writes
  | number n => exact single (Writes.number n)
  | string quotable => exact single (Definite.string quotable).writes
  | @array elements values ih =>
    rw [tokens, elementTokens_eq]
    constructor
    · have all := Writes.listed openBracket closeBracket (fun e he => (ih e he).1) bare
        fun _ => rfl
      simpa [flatMap_intercalate, Function.comp_def] using all
    · intro level
      cases elements with
      | nil => exact openBracket.before closeBracket.writes
      | cons first rest =>
        rw [laidOut, elementLines_eq]
        have lines := fun e he => Writes.blanks (isBlank_of_mem_newLine (level + 1))
          ((ih e he).2 (level + 1))
        exact Writes.listed openBracket closeBracket lines (isBlank_of_mem_newLine level)
          fun _ => rfl
  | @object members keys values ih =>
    rw [tokens, memberTokens_eq]
    constructor
    · have member := fun m hm =>
        (Definite.string (keys m hm)).before (colon.before (ih m hm).1)
      have all := Writes.listed openBrace closeBrace member bare fun _ => rfl
      simpa [flatMap_intercalate, Function.comp_def] using all
    · intro level
      cases members with
      | nil => exact openBrace.before closeBrace.writes
      | cons first rest =>
        rw [laidOut, memberLines_eq]
        have space : ∀ c ∈ [' '], isBlank c = true := List.forall_mem_singleton.mpr rfl
        have lines := fun m hm => Writes.blanks (isBlank_of_mem_newLine (level + 1))
          ((Definite.string (keys m hm)).before
            (colon.before (((ih m hm).2 (level + 1)).blanks space)))
        exact Writes.listed openBrace closeBrace lines (isBlank_of_mem_newLine level) fun _ => rfl

end Legible

/-- The tokens of a value begin with one that does not end an array. -/
theorem exists_tokens_eq_cons (j : Json) :
    ∃ first rest, j.tokens = first :: rest ∧ first ≠ .closeBracket := by
  cases j <;> exact ⟨_, _, rfl, nofun⟩

/-- The tokens of elements begin with one that does not end an array. -/
theorem exists_elementTokens_eq_cons (e : Json) (elements : List Json) :
    ∃ first rest, elementTokens (e :: elements) = first :: rest ∧ first ≠ .closeBracket := by
  obtain ⟨first, rest, begun, apart⟩ := exists_tokens_eq_cons e
  cases elements with
  | nil => exact ⟨first, rest, begun, apart⟩
  | cons e' elements =>
    rw [elementTokens, begun, List.cons_append]
    exact ⟨first, _, rfl, apart⟩

namespace Reader

/-- From tokens the reader has built a value, whatever containers are open. -/
def Builds (tokens : List Token) (j : Json) : Prop :=
  ∀ stack, tokens.foldlM take ⟨stack, .value⟩ = some ⟨stack, .continuation j⟩

/-- At the begin of an array a token that does not end it is taken as at any other place. -/
theorem take_valueOrEnd (stack : List Frame) {token : Token} (h : token ≠ .closeBracket) :
    take ⟨stack, .valueOrEnd⟩ token = take ⟨stack, .value⟩ token := by
  cases token <;> first | rfl | exact absurd rfl h

/-- The elements behind the begin of an array or a comma are added to it in order. -/
theorem take_elements {e : Json} {rest : List Json} (h : ∀ e' ∈ e :: rest, Builds e'.tokens e')
    (done : List Json) (stack : List Frame) :
    (elementTokens (e :: rest) ++ [Token.closeBracket]).foldlM take ⟨.array done :: stack, .value⟩ =
      some ⟨stack, .continuation (.array (done.reverse ++ e :: rest))⟩ := by
  induction rest generalizing e done with
  | nil =>
    have first := h e List.mem_cons_self
    rw [elementTokens, List.foldlM_append, first, Option.bind_eq_bind, Option.bind_some]
    simp [take, takeContinuation]
  | cons e' rest ih =>
    obtain ⟨first, later⟩ := List.forall_mem_cons.mp h
    have next := ih later (e :: done)
    rw [List.reverse_cons, List.append_assoc, List.singleton_append] at next
    rw [elementTokens, List.append_assoc, List.foldlM_append, first, Option.bind_eq_bind,
      Option.bind_some, List.cons_append, List.foldlM_cons]
    exact next

/-- A key and a value make up a member. -/
theorem take_member {m : List Char × Json} (h : Builds m.2.tokens m.2)
    (done : List (List Char × Json)) (stack : List Frame) :
    (Token.string m.1 :: .colon :: m.2.tokens).foldlM take ⟨stack, .key done⟩ =
      some ⟨.object done m.1 :: stack, .continuation m.2⟩ :=
  h (.object done m.1 :: stack)

/-- The members behind the begin of an object or a comma are added to it in order. -/
theorem take_members {m : List Char × Json} {rest : List (List Char × Json)}
    (h : ∀ m' ∈ m :: rest, Builds m'.2.tokens m'.2) (done : List (List Char × Json))
    (stack : List Frame) :
    (memberTokens (m :: rest) ++ [Token.closeBrace]).foldlM take ⟨stack, .key done⟩ =
      some ⟨stack, .continuation (.object (done.reverse ++ m :: rest))⟩ := by
  induction rest generalizing m done with
  | nil =>
    have first := take_member (h m List.mem_cons_self) done stack
    rw [memberTokens, List.foldlM_append, first, Option.bind_eq_bind, Option.bind_some]
    simp [take, takeContinuation]
  | cons m' rest ih =>
    obtain ⟨here, later⟩ := List.forall_mem_cons.mp h
    have first := take_member here done stack
    have next := ih later (m :: done)
    rw [List.reverse_cons, List.append_assoc, List.singleton_append] at next
    rw [memberTokens, List.append_assoc, List.foldlM_append]
    rw [first, Option.bind_eq_bind, Option.bind_some, List.cons_append, List.foldlM_cons]
    exact next

end Reader

/-- A legible value is built from its tokens. -/
theorem Legible.builds {j : Json} (h : Legible j) : Reader.Builds j.tokens j := by
  intro stack
  induction h generalizing stack with
  | null => rfl
  | bool value => rfl
  | number n => rfl
  | string quotable => rfl
  | @array elements values ih =>
    cases elements with
    | nil => rfl
    | cons e rest =>
      obtain ⟨first, others, begun, apart⟩ := exists_elementTokens_eq_cons e rest
      have built := Reader.take_elements ih [] stack
      -- The first token stands where the array could also end.
      rw [begun, List.cons_append, List.foldlM_cons, ← Reader.take_valueOrEnd _ apart,
        ← List.foldlM_cons, ← List.cons_append, ← begun] at built
      exact built
  | @object members keys values ih =>
    cases members with
    | nil => rfl
    | cons m rest =>
      have built := Reader.take_members ih [] stack
      cases rest with
      | nil => exact built
      | cons m' rest => exact built

/-- A legible value is read from every text that spells its tokens. -/
theorem Legible.parse? {j : Json} (h : Legible j) {written : List Char}
    (writes : Writes written j.tokens) : parse? (String.ofList written) = some j := by
  have built : ofTokens? j.tokens = some j := by
    rw [ofTokens?, Reader.start, h.builds, Option.bind_eq_bind, Option.bind_some]
    rfl
  rw [Json.parse?, String.toList_ofList, writes.tokens?, Option.bind_eq_bind, Option.bind_some,
    built]

/-- A legible value is read back from its text without layout. -/
theorem Legible.parse?_compact {j : Json} (h : Legible j) : Json.parse? j.compact = some j :=
  h.parse? h.writes.1

/-- A legible value is read back from its text with layout. -/
theorem Legible.parse?_pretty {j : Json} (h : Legible j) : Json.parse? j.pretty = some j :=
  h.parse? (h.writes.2 0)

end OrgGovernance.Json
