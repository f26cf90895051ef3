import Mathlib.Data.List.Basic
import PayloadRules.Message.Template

/-!
# Templates are read once

Rendering cuts a template into pieces and puts a text in place of each. What it needs to be
a single pass without loss is said about the cut: the pieces spell the template
(`flatMap_text_pieces`), their tokens are the colons with the longest names behind them
(`token_mem_pieces_iff`), and a template is cut at any place that no name goes across by
cutting both sides (`pieces_append`).

A value is put in after the cut. So its colons are never read, and the text around a token
is rendered as if the token were not there.
-/

namespace PayloadRules

namespace Template

/-- A name that a token can have. -/
def IsTokenName (name : List Char) : Prop :=
  name.head?.any isNameStart = true ∧ name.all isNameChar = true

/-- A text that a name in front of it does not go on into. -/
def Apart (behind : List Char) : Prop := behind.head?.any isNameChar = false

instance : DecidablePred IsTokenName := fun _ => inferInstanceAs (Decidable (_ ∧ _))

instance : DecidablePred Apart := fun _ => inferInstanceAs (Decidable (_ = false))

/-- Whether a name stands in a template behind a colon and ends where it can. -/
def HasToken (template name : List Char) : Prop :=
  IsTokenName name ∧ ∃ before behind, template = before ++ ':' :: (name ++ behind) ∧ Apart behind

/-- The ways to write a name, in the order in which they are tried. -/
def spellings : List (List Char → List Char) := [id, Text.upperFirst, Text.upper]

/-- Every parameter in each spelling, with its value spelled like its name. -/
def spelled (params : List (String × String)) : List (String × String) :=
  params.flatMap fun p => spellings.map fun spell =>
    (String.ofList (spell p.1.toList), String.ofList (spell p.2.toList))

variable {params : List (String × String)} {template before behind name : List Char}

/-! ## Names -/

theorem isNameChar_of_isNameStart {c : Char} (start : isNameStart c = true) :
    isNameChar c = true := by
  simp only [isNameStart, Bool.or_eq_true] at start
  simp only [isNameChar, Char.isAlphanum, Bool.or_eq_true]
  exact start.imp_left .inl

theorem isTokenName_cons {c : Char} :
    IsTokenName (c :: name) ↔ isNameStart c = true ∧ ∀ d ∈ name, isNameChar d = true := by
  simp only [IsTokenName, List.head?_cons, Option.any_some, List.all_cons, Bool.and_eq_true,
    List.all_eq_true]
  exact and_congr_right fun start => and_iff_right (isNameChar_of_isNameStart start)

theorem IsTokenName.concat {c : Char} (named : IsTokenName name) (goesOn : isNameChar c = true) :
    IsTokenName (name ++ [c]) := by
  cases name with
  | nil => simp [IsTokenName] at named
  | cons d rest =>
    obtain ⟨start, chars⟩ := isTokenName_cons.mp named
    refine isTokenName_cons.mpr ⟨start, ?_⟩
    simpa [or_imp, forall_and, goesOn] using chars

theorem apart_nil : Apart [] := rfl

theorem apart_cons {c : Char} {rest : List Char} : Apart (c :: rest) ↔ isNameChar c = false :=
  Iff.rfl

/-- A colon is no part of a name. -/
theorem apart_colon (rest : List Char) : Apart (':' :: rest) := apart_cons.mpr (by decide)

theorem HasToken.append_left (front : List Char) (has : HasToken template name) :
    HasToken (front ++ template) name := by
  obtain ⟨named, before, behind, rfl, apart⟩ := has
  exact ⟨named, front ++ before, behind, by simp, apart⟩

/-! ## The cut -/

/-- The text that a piece is cut from. -/
def Piece.text : Piece → List Char
  | .char c => [c]
  | .token name => ':' :: name

/-- The text that has been read and is pending. -/
def Pending.read : Pending → List Char
  | .text => []
  | .colon => [':']
  | .token name => ':' :: name

/-- The cut loses nothing of what is pending and what is still to be read. -/
theorem flatMap_text_piecesAfter (pending : Pending) (template : List Char) :
    (piecesAfter pending template).flatMap Piece.text = pending.read ++ template := by
  fun_induction piecesAfter pending template <;> simp_all [Piece.text, Pending.read]

/-- The pieces of a template spell the template. -/
theorem flatMap_text_pieces (template : List Char) :
    (pieces template).flatMap Piece.text = template :=
  flatMap_text_piecesAfter .text template

/-- What is pending ends in front of a text that is apart. -/
theorem piecesAfter_of_apart (pending : Pending) (apart : Apart behind) :
    piecesAfter pending behind = piecesAfter pending [] ++ pieces behind := by
  cases behind with
  | nil => cases pending <;> simp [pieces, piecesAfter]
  | cons c rest =>
    have outside : isNameChar c = false := apart_cons.mp apart
    have noStart : ¬ isNameStart c = true := fun start => by
      simp [isNameChar_of_isNameStart start] at outside
    cases pending <;> by_cases colon : c = ':' <;>
      simp_all [pieces, piecesAfter]

theorem piecesAfter_append (pending : Pending) (before : List Char) (apart : Apart behind) :
    piecesAfter pending (before ++ behind) = piecesAfter pending before ++ pieces behind := by
  fun_induction piecesAfter pending before <;>
    simp_all [piecesAfter, piecesAfter_of_apart]

/-- Two texts are cut one by one if no name goes across from one into the other. -/
theorem pieces_append (before : List Char) (apart : Apart behind) :
    pieces (before ++ behind) = pieces before ++ pieces behind :=
  piecesAfter_append .text before apart

/-! ## The tokens -/

/-- A name that is pending is one that a token can have. -/
def Pending.Named : Pending → Prop
  | .token name => IsTokenName name
  | _ => True

/-- A token is cut only where the template has it. -/
theorem hasToken_of_mem_piecesAfter {pending : Pending} (named : pending.Named)
    (mem : .token name ∈ piecesAfter pending template) :
    HasToken (pending.read ++ template) name := by
  -- a token that is cut is what was pending, or it comes later and what was pending goes in front
  fun_induction piecesAfter pending template with
  | case1 => simp at mem
  | case2 => simp at mem
  | case3 pendingName =>
    obtain rfl : name = pendingName := by simpa using mem
    exact ⟨named, [], [], by simp [Pending.read], apart_nil⟩
  | case4 rest ih => exact ih trivial mem
  | case5 c rest _ ih => exact (ih trivial (by simpa using mem)).append_left [c]
  | case6 c rest start ih => exact ih (isTokenName_cons.mpr ⟨start, by simp⟩) mem
  | case7 rest _ ih => exact (ih trivial (by simpa using mem)).append_left [':']
  | case8 c rest _ _ ih => exact (ih trivial (by simpa using mem)).append_left [':', c]
  | case9 pendingName c rest goesOn ih =>
    have has := ih (named.concat goesOn) mem
    simpa [Pending.read] using has
  | case10 pendingName rest _ ih =>
    obtain same | later := List.mem_cons.mp mem
    · obtain rfl : name = pendingName := by simpa using same
      exact ⟨named, [], ':' :: rest, by simp [Pending.read], apart_colon rest⟩
    · exact (ih trivial later).append_left (':' :: pendingName)
  | case11 pendingName c rest ends _ ih =>
    simp only [List.mem_cons, reduceCtorEq, false_or] at mem
    obtain same | later := mem
    · obtain rfl : name = pendingName := by simpa using same
      exact ⟨named, [], c :: rest, by simp [Pending.read], apart_cons.mpr (by simpa using ends)⟩
    · have has := (ih trivial later).append_left (':' :: (pendingName ++ [c]))
      simpa [Pending.read] using has

theorem piecesAfter_token (rest : List Char) (chars : ∀ c ∈ rest, isNameChar c = true) :
    piecesAfter (.token name) rest = [.token (name ++ rest)] := by
  induction rest generalizing name with
  | nil => simp [piecesAfter]
  | cons c rest ih =>
    obtain ⟨goesOn, later⟩ := List.forall_mem_cons.mp chars
    rw [piecesAfter, if_pos goesOn, ih later, List.append_assoc, List.singleton_append]

/-- A token alone is one piece. -/
theorem pieces_token (named : IsTokenName name) : pieces (':' :: name) = [.token name] := by
  cases name with
  | nil => simp [IsTokenName] at named
  | cons c rest =>
    obtain ⟨start, chars⟩ := isTokenName_cons.mp named
    simp [pieces, piecesAfter, start, piecesAfter_token rest chars]

/-- A token is cut out of what stands around it. -/
theorem pieces_around (named : IsTokenName name) (apart : Apart behind) :
    pieces (before ++ ':' :: (name ++ behind)) =
      pieces before ++ .token name :: pieces behind := by
  rw [pieces_append before (apart_colon _), ← List.cons_append, pieces_append _ apart,
    pieces_token named, List.singleton_append]

/-- The tokens of a template are the longest names behind its colons. -/
theorem token_mem_pieces_iff : .token name ∈ pieces template ↔ HasToken template name := by
  constructor
  · intro mem
    have named : Pending.text.Named := trivial
    exact hasToken_of_mem_piecesAfter named mem
  · rintro ⟨named, before, behind, rfl, apart⟩
    simp [pieces_around named apart]

/-- A text with no name behind a colon has no token. -/
theorem not_hasToken_of_no_start
    (noStart : ∀ before c behind, template = before ++ ':' :: c :: behind → isNameStart c = false) :
    ¬ HasToken template name := by
  rintro ⟨named, before, behind, spells, -⟩
  cases name with
  | nil => simp [IsTokenName] at named
  | cons c rest =>
    have start := (isTokenName_cons.mp named).1
    simp [noStart before c (rest ++ behind) spells] at start

/-! ## The values -/

theorem valueFrom?_eq_lookup (token : List Char) (p : String × String) :
    valueFrom? token p.1.toList p.2.toList =
      ((spelled [p]).lookup (String.ofList token)).map String.toList := by
  simp only [valueFrom?, spelled, spellings, List.lookup_eq_findSome?, List.flatMap_cons,
    List.flatMap_nil, List.map_cons, List.map_nil, List.append_nil, List.findSome?_cons,
    List.findSome?_nil, beq_iff_eq, String.ofList_inj, id_eq]
  split_ifs <;> simp

/-- A token takes its value from the first spelled parameter of its name. -/
theorem value?_eq_lookup (token : List Char) (params : List (String × String)) :
    value? token params = ((spelled params).lookup (String.ofList token)).map String.toList := by
  induction params with
  | nil => rfl
  | cons p params ih =>
    have split : spelled (p :: params) = spelled [p] ++ spelled params := by
      simp only [spelled, List.flatMap_cons, List.flatMap_nil, List.append_nil]
    rw [split, List.lookup_append, Option.map_or, ← ih, ← valueFrom?_eq_lookup, value?,
      List.findSome?_cons]
    cases valueFrom? token p.1.toList p.2.toList <;> rfl

/-! ## Rendering -/

/-- A token alone is its value, or itself where it has none. -/
theorem renderChars_token (named : IsTokenName name) :
    renderChars params (':' :: name) = (value? name params).getD (':' :: name) := by
  rw [renderChars, pieces_token named, List.flatMap_singleton, renderPiece]

/-- A template whose tokens have no values stays as it is. -/
theorem renderChars_eq_self (unknown : ∀ name, HasToken template name → value? name params = none) :
    renderChars params template = template := by
  have asWritten : ∀ p ∈ pieces template, renderPiece params p = p.text := by
    rintro (c | name) mem
    · rfl
    · rw [renderPiece, unknown name (token_mem_pieces_iff.mp mem), Option.getD_none, Piece.text]
  calc renderChars params template
      = (pieces template).flatMap Piece.text := List.flatMap_congr asWritten
    _ = template := flatMap_text_pieces template

theorem render_append (params : List (String × String)) (a : String) {b : String}
    (apart : Apart b.toList) : render (a ++ b) params = render a params ++ render b params := by
  rw [render, String.toList_append, renderChars, pieces_append _ apart, List.flatMap_append,
    String.ofList_append, render, render, renderChars, renderChars]

theorem render_token (params : List (String × String)) {name : String}
    (named : IsTokenName name.toList) :
    render (":" ++ name) params = ((spelled params).lookup name).getD (":" ++ name) := by
  have colon : (":" ++ name).toList = ':' :: name.toList := by simp
  rw [render, colon, renderChars_token named, value?_eq_lookup, String.ofList_toList, ← colon]
  cases (spelled params).lookup name <;> simp

theorem render_eq_self {text : String}
    (unknown : ∀ name : String, HasToken text.toList name.toList →
      name ∉ (spelled params).map Prod.fst) :
    render text params = text := by
  rw [render, renderChars_eq_self, String.ofList_toList]
  intro name has
  have noKey : String.ofList name ∉ (spelled params).map Prod.fst :=
    unknown _ (by rwa [String.toList_ofList])
  rw [value?_eq_lookup, Option.map_eq_none_iff, List.lookup_eq_none_iff]
  exact fun p mem => bne_iff_ne.mpr fun same => noKey (same ▸ List.mem_map_of_mem mem)

theorem render_around (params : List (String × String)) (before : String) {name behind : String}
    (named : IsTokenName name.toList) (apart : Apart behind.toList) :
    render (before ++ (":" ++ name ++ behind)) params =
      render before params ++
        (((spelled params).lookup name).getD (":" ++ name) ++ render behind params) := by
  have colon : (":" ++ name ++ behind).toList = ':' :: (name.toList ++ behind.toList) := by simp
  rw [render_append params before (by rw [colon]; exact apart_colon _),
    render_append params (":" ++ name) apart, render_token params named]

/-- Rendering is one pass over a template that loses nothing: texts that no name goes across are
rendered one by one, a token is its value or itself, and everything else stays as it is. What a
value brings in is not read. -/
theorem render_reads_once (params : List (String × String)) :
    (∀ a b : String, Apart b.toList → render (a ++ b) params = render a params ++ render b params) ∧
    (∀ text : String,
      (∀ before c behind, text.toList = before ++ ':' :: c :: behind → isNameStart c = false) →
        render text params = text) ∧
    (∀ name : String, IsTokenName name.toList →
      render (":" ++ name) params = ((spelled params).lookup name).getD (":" ++ name)) ∧
    (∀ before name behind : String, IsTokenName name.toList → Apart behind.toList →
      render (before ++ (":" ++ name ++ behind)) params =
        render before params ++
          (((spelled params).lookup name).getD (":" ++ name) ++ render behind params)) ∧
    (∀ text : String,
      (∀ name : String, HasToken text.toList name.toList → name ∉ (spelled params).map Prod.fst) →
        render text params = text) := by
  refine ⟨fun a b apart => render_append params a apart, ?plain,
    fun name named => render_token params named,
    fun before name behind named apart => render_around params before named apart,
    fun text unknown => render_eq_self unknown⟩
  case plain =>
    exact fun text noStart => render_eq_self fun name has =>
      absurd has (not_hasToken_of_no_start noStart)

/-- The value `:total` is put in as it is, Japanese text ends a name, and a time of day and a token
without a parameter stay. -/
theorem render_rows_and_times :
    render ("Row " ++ (":" ++ "position" ++ " of :total"))
      [("position", ":total"), ("total", "9")] = "Row :total of 9" ∧
    render (":" ++ "Description" ++ "の各項目") [("description", "tags")] = "Tagsの各項目" ∧
    render "12:30" [("description", "tags")] = "12:30" ∧
    render "at :time" [("description", "tags")] = "at :time" := by
  have rows := render_reads_once [("position", ":total"), ("total", "9")]
  obtain ⟨split, plain, token, -, unknown⟩ := render_reads_once [("description", "tags")]
  refine ⟨?row, ?tags, ?clock, ?time⟩
  case row =>
    rw [rows.2.2.2.1 "Row " "position" " of :total" (by decide) (by decide)]
    decide
  case tags =>
    rw [split (":" ++ "Description") "の各項目" (by decide), token "Description" (by decide)]
    decide
  case clock =>
    refine plain "12:30" fun before c behind spells => ?_
    have noName : "12:30".toList.any isNameStart = false := by decide
    simpa using List.any_eq_false.mp noName c (by simp [spells])
  case time =>
    refine unknown "at :time" fun name has => ?_
    have cut : pieces "at :time".toList =
        [.char 'a', .char 't', .char ' ', .token "time".toList] := by decide
    have mem := token_mem_pieces_iff.mpr has
    rw [cut] at mem
    have same : name.toList = "time".toList := by simpa using mem
    obtain rfl := String.toList_inj.mp same
    decide

end Template

end PayloadRules
