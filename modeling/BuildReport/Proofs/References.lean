import BuildReport.Environment
import Mathlib.Data.List.Basic
import Mathlib.Data.List.Infix

/-!
# References in a text

A text is taken apart before anything is known of the environment: plain text up to the first
opening, the name up to the first closing brace behind it, and so on with what is left. The text is
then put together again with a value for every name, and the values are not looked at. Where nothing
is opened between two texts that are joined, and nothing is left open in the first, each of them can
be expanded on its own.

The same comes out of a loop that counts in bytes, as far as it gets. It gets to the end, because it
only cuts the text where it has found an opening or a brace, and some of the text is used up in
every turn.

- `TakenApart`: the parts of a text; `exists_takenApart`, `TakenApart.unique`.
- `TakenApart.expandChars_eq`: the text expanded is its parts, with values for the names.
- `TakenApart.expandChars_append`: when two texts can be expanded apart.
- `Scan.turn`, `Scan.run`: the loop over bytes; `TakenApart.run_eq`.
- `expanded_once`: all this for every text and every environment.
-/

namespace BuildReport

namespace Environment

/-! ## Parts -/

/-- What opens a reference. -/
def opening : List Char := ['$', '{']

/-- A text taken apart: stretches of plain text, each with the name in the reference behind it, and
the text behind the last reference. -/
structure Parts where
  references : List (List Char × List Char)
  tail : List Char

/-- The parts put together, with the value of the name for each reference. The empty name stands for
nothing, and so does a name that has no value. -/
def Parts.write (value? : List Char → Option (List Char)) (parts : Parts) : List Char :=
  (parts.references.flatMap fun (plain, name) =>
    plain ++ if name = [] then [] else (value? name).getD []) ++ parts.tail

/-- The text is taken apart into these parts, from the left. Each reference begins at the first
opening in what is left, and its name ends at the first closing brace. It is over when nothing is
opened any more, or when what is opened next is not closed. -/
inductive TakenApart : List Char → Parts → Prop
  | plain {s : List Char} (hplain : ¬ opening <:+: s) : TakenApart s ⟨[], s⟩
  | unclosed {before s : List Char} (hplain : ¬ opening <:+: before) (hopen : '}' ∉ s) :
    TakenApart (before ++ (opening ++ s)) ⟨[], before ++ (opening ++ s)⟩
  | reference {before name rest : List Char} {parts : Parts} (hplain : ¬ opening <:+: before)
    (hname : '}' ∉ name) (hrest : TakenApart rest parts) :
    TakenApart (before ++ (opening ++ (name ++ '}' :: rest)))
      ⟨(before, name) :: parts.references, parts.tail⟩

variable {before name rest s t : List Char}

/-- A word that occurs in a text occurs somewhere first. -/
theorem exists_first {word : List Char} (hne : word ≠ []) (h : word <:+: s) :
    ∃ before after, s = before ++ (word ++ after) ∧ ¬ word <:+: before := by
  induction s with
  | nil => exact absurd (List.infix_nil.mp h) hne
  | cons c s ih =>
    by_cases hprefix : word <+: c :: s
    · obtain ⟨after, hafter⟩ := hprefix
      exact ⟨[], after, hafter.symm, fun hnil => hne (List.infix_nil.mp hnil)⟩
    · obtain ⟨before, after, rfl, hbefore⟩ := ih ((List.infix_cons_iff.mp h).resolve_left hprefix)
      refine ⟨c :: before, after, rfl, fun hinfix => ?_⟩
      rcases List.infix_cons_iff.mp hinfix with hearlier | hinner
      · exact hprefix (hearlier.trans (List.prefix_append (c :: before) (word ++ after)))
      · exact hbefore hinner

/-- **Every text can be taken apart.** -/
theorem exists_takenApart (s : List Char) : ∃ parts, TakenApart s parts := by
  -- by induction on the length: what is left behind a reference is shorter
  induction hn : s.length using Nat.strong_induction_on generalizing s with
  | _ n ih =>
    by_cases h : opening <:+: s
    · obtain ⟨before, after, rfl, hplain⟩ := exists_first (by decide) h
      by_cases hclosed : '}' ∈ after
      · obtain ⟨name, rest, rfl, hname⟩ := List.eq_append_cons_of_mem hclosed
        have hlt : rest.length < n := by
          simp only [List.length_append, List.length_cons] at hn
          omega
        obtain ⟨parts, hparts⟩ := ih _ hlt rest rfl
        exact ⟨_, .reference hplain hname hparts⟩
      · exact ⟨_, .unclosed hplain hclosed⟩
    · exact ⟨_, .plain h⟩

/-! ## Expansion -/

variable (env : Environment)

theorem upToBrace_append (h : '}' ∉ name) (rest : List Char) :
    upToBrace (name ++ '}' :: rest) = some (name, rest) := by
  induction name with
  | nil => exact if_pos rfl
  | cons c name ih =>
    simp only [List.mem_cons, not_or] at h
    rw [List.cons_append, upToBrace, if_neg (Ne.symm h.1), ih h.2]
    rfl

theorem upToBrace_of_not_mem (h : '}' ∉ s) : upToBrace s = none := by
  induction s with
  | nil => rfl
  | cons c s ih =>
    simp only [List.mem_cons, not_or] at h
    rw [upToBrace, if_neg (Ne.symm h.1), ih h.2]
    rfl

/-- A character that opens no reference stands for itself. -/
theorem expandChars_cons_of_head {c : Char} (h : c = '$' → s.head? ≠ some '{') :
    env.expandChars (c :: s) = c :: env.expandChars s := by
  rw [expandChars]
  rintro t rfl rfl
  exact h rfl rfl

/-- **Plain text stands for itself**, unless an opening begins with its last character. -/
theorem expandChars_plain_append (hplain : ¬ opening <:+: s)
    (happart : ¬ (s.getLast? = some '$' ∧ t.head? = some '{')) :
    env.expandChars (s ++ t) = s ++ env.expandChars t := by
  induction s with
  | nil => rfl
  | cons c s ih =>
    have hrest : ¬ opening <:+: s := fun h => hplain (List.infix_cons h)
    rw [List.cons_append, List.cons_append]
    cases s with
    | nil => exact expandChars_cons_of_head env fun hc hhead => happart ⟨by rw [hc]; rfl, hhead⟩
    | cons d s =>
      rw [List.getLast?_cons_cons] at happart
      rw [← ih hrest happart]
      refine expandChars_cons_of_head env ?_
      rintro rfl hhead
      obtain rfl : d = '{' := Option.some.inj hhead
      exact hplain (List.prefix_append opening s).isInfix

theorem expandChars_closed (hname : '}' ∉ name) (rest : List Char) :
    env.expandChars (opening ++ (name ++ '}' :: rest)) =
      env.referenced name ++ env.expandChars rest := by
  have hclose := upToBrace_append hname rest
  show env.expandChars ('$' :: '{' :: (name ++ '}' :: rest)) = _
  rw [expandChars]
  split
  · next found more hfound =>
    cases hclose.symm.trans hfound
    rfl
  · next hnone => cases hclose.symm.trans hnone

theorem expandChars_unclosed (hopen : '}' ∉ s) :
    env.expandChars (opening ++ s) = opening ++ s := by
  have hclose := upToBrace_of_not_mem hopen
  show env.expandChars ('$' :: '{' :: s) = _
  rw [expandChars]
  split
  · next found more hfound => cases hclose.symm.trans hfound
  · rfl

/-- What is in front of an opening does not run into it. -/
theorem not_opens_at_opening (before s : List Char) :
    ¬ (before.getLast? = some '$' ∧ (opening ++ s).head? = some '{') := by
  rintro ⟨-, hhead⟩
  cases hhead

/-- Text in which nothing is opened stands for itself. -/
theorem expandChars_of_plain (hplain : ¬ opening <:+: s) : env.expandChars s = s := by
  have hend := expandChars_plain_append env (t := []) hplain (by simp)
  rwa [List.append_nil, expandChars_nil, List.append_nil] at hend

variable {parts : Parts}

theorem Parts.write_reference (before name : List Char) (parts : Parts) :
    Parts.write env.value? ⟨(before, name) :: parts.references, parts.tail⟩ =
      before ++ (env.referenced name ++ parts.write env.value?) := by
  rw [Parts.write, Parts.write, List.flatMap_cons, List.append_assoc, List.append_assoc]
  rfl

/-- **A text expanded is its parts, with values for the names.** -/
theorem TakenApart.expandChars_eq (h : TakenApart s parts) :
    env.expandChars s = parts.write env.value? := by
  induction h with
  | plain hplain => exact expandChars_of_plain env hplain
  | unclosed hplain hopen =>
    rw [expandChars_plain_append env hplain (not_opens_at_opening _ _),
      expandChars_unclosed env hopen]
    rfl
  | reference hplain hname hrest ih =>
    rw [expandChars_plain_append env hplain (not_opens_at_opening _ _),
      expandChars_closed env hname, ih, Parts.write_reference]

/-- **Two texts can be expanded apart** if nothing is left open in the first and nothing is opened
between them. -/
theorem TakenApart.expandChars_append (h : TakenApart s parts) (htail : ¬ opening <:+: parts.tail)
    (happart : ¬ (s.getLast? = some '$' ∧ t.head? = some '{')) :
    env.expandChars (s ++ t) = env.expandChars s ++ env.expandChars t := by
  induction h with
  | plain hplain =>
    rw [expandChars_plain_append env hplain happart, expandChars_of_plain env hplain]
  | @unclosed before s =>
    exact absurd ⟨before, s, List.append_assoc before opening s⟩ htail
  | @reference before name rest parts hplain hname hrest ih =>
    -- the text ends as what is left behind the reference does, if anything is left
    have hends : ¬ (rest.getLast? = some '$' ∧ t.head? = some '{') := by
      rintro ⟨hlast, hhead⟩
      refine happart ⟨?_, hhead⟩
      obtain ⟨more, rfl⟩ := List.getLast?_eq_some_iff.mp hlast
      refine List.getLast?_eq_some_iff.mpr ⟨before ++ (opening ++ (name ++ '}' :: more)), ?_⟩
      simp
    have hwhole : before ++ (opening ++ (name ++ '}' :: rest)) ++ t =
        before ++ (opening ++ (name ++ '}' :: (rest ++ t))) := by simp
    rw [hwhole, expandChars_plain_append env hplain (not_opens_at_opening _ _),
      expandChars_plain_append env hplain (not_opens_at_opening _ _),
      expandChars_closed env hname, expandChars_closed env hname, ih htail hends,
      List.append_assoc, List.append_assoc]

/-! ## The loop over bytes -/

/-- How many bytes a text takes. -/
def byteCount (s : List Char) : Nat :=
  (String.ofList s).utf8ByteSize

/-- A text cut in two behind so many bytes, unless this is inside of a character or beyond the
end. -/
def cutAt? : Nat → List Char → Option (List Char × List Char)
  | 0, s => some ([], s)
  | _ + 1, [] => none
  | n + 1, c :: s =>
    if n + 1 < c.utf8Size then none
    else (cutAt? (n + 1 - c.utf8Size) s).map fun (front, back) => (c :: front, back)

/-- The first bytes of a text, so many of them. -/
def upTo? (n : Nat) (s : List Char) : Option (List Char) :=
  (cutAt? n s).map (·.1)

/-- A text from so many bytes on. -/
def from? (n : Nat) (s : List Char) : Option (List Char) :=
  (cutAt? n s).map (·.2)

/-- In front of how many bytes of a text a word occurs first. -/
def firstAt? (word : List Char) : List Char → Option Nat
  | [] => if word = [] then some 0 else none
  | c :: s => if word <+: c :: s then some 0 else (firstAt? word s).map (c.utf8Size + ·)

@[simp] theorem byteCount_append (s t : List Char) :
    byteCount (s ++ t) = byteCount s + byteCount t := by
  simp [byteCount]

theorem byteCount_cons (c : Char) (s : List Char) :
    byteCount (c :: s) = c.utf8Size + byteCount s := by
  rw [← List.singleton_append, byteCount_append]
  simp [byteCount]

theorem byteCount_opening : byteCount opening = 2 := rfl

theorem byteCount_brace : byteCount ['}'] = 1 := rfl

theorem cutAt?_append (s t : List Char) : cutAt? (byteCount s) (s ++ t) = some (s, t) := by
  induction s with
  | nil => rw [List.nil_append]; cases t <;> rfl
  | cons c s ih =>
    have hsize := byteCount_cons c s
    have hpos := c.utf8Size_pos
    obtain ⟨n, hn⟩ : ∃ n, byteCount (c :: s) = n + 1 := ⟨byteCount (c :: s) - 1, by omega⟩
    rw [hn, List.cons_append, cutAt?, if_neg (by omega), ← hn, hsize, Nat.add_sub_cancel_left, ih]
    rfl

theorem upTo?_append (s t : List Char) : upTo? (byteCount s) (s ++ t) = some s := by
  rw [upTo?, cutAt?_append]
  rfl

theorem from?_append (s t : List Char) : from? (byteCount s) (s ++ t) = some t := by
  rw [from?, cutAt?_append]
  rfl

/-- A word is found behind a text in which it does not begin. -/
theorem firstAt?_append {word : List Char} (hne : word ≠ [])
    (hfirst : ∀ b x, before = b ++ x → x ≠ [] → ¬ word <+: x ++ (word ++ s)) :
    firstAt? word (before ++ (word ++ s)) = some (byteCount before) := by
  induction before with
  | nil =>
    obtain ⟨w, word, rfl⟩ := List.exists_cons_of_ne_nil hne
    exact if_pos (List.prefix_append (w :: word) s)
  | cons c before ih =>
    have hhere := hfirst [] (c :: before) rfl (List.cons_ne_nil c before)
    rw [List.cons_append] at hhere
    rw [List.cons_append, firstAt?, if_neg hhere,
      ih fun b x hx hxne => hfirst (c :: b) x (congrArg (c :: ·) hx) hxne, byteCount_cons]
    rfl

theorem firstAt?_opening (hplain : ¬ opening <:+: before) (s : List Char) :
    firstAt? opening (before ++ (opening ++ s)) = some (byteCount before) := by
  refine firstAt?_append (by decide) ?_
  rintro b x rfl hx ⟨more, hmore⟩
  obtain ⟨c, x, rfl⟩ := List.exists_cons_of_ne_nil hx
  obtain ⟨rfl, htail⟩ := List.cons.inj hmore
  cases x with
  | nil => cases htail
  | cons d x =>
    obtain ⟨rfl, -⟩ := List.cons.inj htail
    exact hplain ⟨b, x, List.append_assoc b opening x⟩

theorem firstAt?_brace (hname : '}' ∉ name) (rest : List Char) :
    firstAt? ['}'] (name ++ '}' :: rest) = some (byteCount name) := by
  have hne : ['}'] ≠ [] := by decide
  refine firstAt?_append hne ?_
  rintro b x rfl hx ⟨more, hmore⟩
  obtain ⟨c, x, rfl⟩ := List.exists_cons_of_ne_nil hx
  obtain ⟨rfl, -⟩ := List.cons.inj hmore
  exact hname (List.mem_append_right b List.mem_cons_self)

theorem firstAt?_eq_none {word : List Char} (h : ¬ word <:+: s) : firstAt? word s = none := by
  induction s with
  | nil => exact if_neg fun hnil => h (List.infix_nil.mpr hnil)
  | cons c s ih =>
    rw [firstAt?, if_neg fun hprefix => h hprefix.isInfix,
      ih fun hinner => h (List.infix_cons hinner)]
    rfl

/-- How far the loop has come: the text put out so far, and the text that is left. -/
structure Scan where
  out : List Char
  left : List Char

/-- What the loop does next: it goes on, or it is over with a text put out. -/
inductive Scan.Next where
  | again (scan : Scan)
  | over (out : List Char)

/-- One turn of the loop, unless it cuts a text where this cannot be done. -/
def Scan.turn (env : Environment) (scan : Scan) : Option Scan.Next :=
  match firstAt? opening scan.left with
  | none => some (.over (scan.out ++ scan.left))
  | some start => do
    let behind ← from? (start + 2) scan.left
    match firstAt? ['}'] behind with
    | none => some (.over (scan.out ++ scan.left))
    | some length => do
      let plain ← upTo? start scan.left
      let name ← (upTo? (start + 2 + length) scan.left).bind (from? (start + 2))
      let left ← from? (start + 2 + length + 1) scan.left
      return .again { out := scan.out ++ plain ++ env.referenced name, left }

/-- The loop, for no more than so many turns. -/
def Scan.run (env : Environment) : Nat → Scan → Option (List Char)
  | 0, _ => none
  | n + 1, scan => do
    match ← scan.turn env with
    | .again next => next.run env n
    | .over out => return out

/-- Where an opening is found, the text can be cut behind it. -/
theorem from?_opening (before s : List Char) :
    from? (byteCount before + 2) (before ++ (opening ++ s)) = some s := by
  have hcount : byteCount before + 2 = byteCount (before ++ opening) := by
    rw [byteCount_append, byteCount_opening]
  rw [hcount, ← List.append_assoc]
  exact from?_append (before ++ opening) s

namespace Scan

theorem turn_plain (hplain : ¬ opening <:+: s) (out : List Char) :
    turn env ⟨out, s⟩ = some (.over (out ++ s)) := by
  rw [turn, firstAt?_eq_none hplain]

theorem turn_unclosed (hplain : ¬ opening <:+: before) (hopen : '}' ∉ s) (out : List Char) :
    turn env ⟨out, before ++ (opening ++ s)⟩ =
      some (.over (out ++ (before ++ (opening ++ s)))) := by
  have hnone : firstAt? ['}'] s = none :=
    firstAt?_eq_none fun h => hopen (h.subset (List.mem_singleton_self '}'))
  simp only [turn, firstAt?_opening hplain, from?_opening, Option.bind_eq_bind, Option.bind_some,
    hnone]

theorem turn_reference (hplain : ¬ opening <:+: before) (hname : '}' ∉ name)
    (rest out : List Char) :
    turn env ⟨out, before ++ (opening ++ (name ++ '}' :: rest))⟩ =
      some (.again ⟨out ++ before ++ env.referenced name, rest⟩) := by
  have hend : byteCount before + 2 + byteCount name =
      byteCount (before ++ (opening ++ name)) := by
    simp [byteCount_opening, Nat.add_assoc]
  have hbehind : byteCount before + 2 + byteCount name + 1 =
      byteCount (before ++ (opening ++ (name ++ ['}']))) := by
    simp [byteCount_opening, byteCount_brace, Nat.add_assoc]
  have hname_upTo : upTo? (byteCount before + 2 + byteCount name)
      (before ++ (opening ++ (name ++ '}' :: rest))) = some (before ++ (opening ++ name)) := by
    rw [hend, ← upTo?_append (before ++ (opening ++ name)) ('}' :: rest)]
    simp
  have hrest : from? (byteCount before + 2 + byteCount name + 1)
      (before ++ (opening ++ (name ++ '}' :: rest))) = some rest := by
    rw [hbehind, ← from?_append (before ++ (opening ++ (name ++ ['}']))) rest]
    simp
  simp only [turn, firstAt?_opening hplain, from?_opening, Option.bind_eq_bind, Option.bind_some,
    firstAt?_brace hname, upTo?_append, hname_upTo, hrest]
  rfl

end Scan

/-- **The loop gets to the end**, and puts out the parts with values for the names. It never cuts a
text where this cannot be done, and every turn but the last uses up some of the text. -/
theorem TakenApart.run_eq (h : TakenApart s parts) (out : List Char) {n : Nat}
    (hn : s.length ≤ n) : Scan.run env (n + 1) ⟨out, s⟩ = some (out ++ parts.write env.value?) := by
  induction h generalizing out n with
  | plain hplain =>
    rw [Scan.run, Scan.turn_plain env hplain]
    rfl
  | unclosed hplain hopen =>
    rw [Scan.run, Scan.turn_unclosed env hplain hopen]
    rfl
  | @reference before name rest parts hplain hname hrest ih =>
    simp only [List.length_append, List.length_cons] at hn
    obtain ⟨m, rfl⟩ : ∃ m, n = m + 1 := ⟨n - 1, by omega⟩
    rw [Scan.run, Scan.turn_reference env hplain hname]
    show Scan.run env (m + 1) ⟨out ++ before ++ env.referenced name, rest⟩ = _
    rw [ih _ (by omega), Parts.write_reference, List.append_assoc, List.append_assoc]

/-! ## One way to take a text apart -/

theorem append_opening_inj {before' s' : List Char} (hplain : ¬ opening <:+: before)
    (hplain' : ¬ opening <:+: before') (h : before ++ (opening ++ s) = before' ++ (opening ++ s')) :
    before = before' ∧ s = s' := by
  have hcount : byteCount before = byteCount before' := by
    rw [← Option.some_inj, ← firstAt?_opening hplain s, h, firstAt?_opening hplain']
  have hcut : some (before, opening ++ s) = some (before', opening ++ s') := by
    rw [← cutAt?_append, ← cutAt?_append, h, hcount]
  obtain ⟨rfl, htail⟩ := Prod.mk.inj (Option.some.inj hcut)
  exact ⟨rfl, List.append_cancel_left htail⟩

theorem append_brace_inj {name' rest' : List Char} (hname : '}' ∉ name) (hname' : '}' ∉ name')
    (h : name ++ '}' :: rest = name' ++ '}' :: rest') : name = name' ∧ rest = rest' := by
  have hread : some (name, rest) = some (name', rest') := by
    rw [← upToBrace_append hname, h, upToBrace_append hname']
  exact Prod.mk.inj (Option.some.inj hread)

/-- **A text is taken apart in one way only.** -/
theorem TakenApart.unique {parts' : Parts} (h : TakenApart s parts) (h' : TakenApart s parts') :
    parts = parts' := by
  have hopens (before s : List Char) : opening <:+: before ++ (opening ++ s) :=
    ⟨before, s, List.append_assoc before opening s⟩
  induction h generalizing parts' with
  | plain hplain =>
    cases h' with
    | plain => rfl
    | unclosed => exact absurd (hopens _ _) hplain
    | reference => exact absurd (hopens _ _) hplain
  | unclosed hplain hopen =>
    generalize htext : _ ++ (opening ++ _) = text at h' ⊢
    cases h' with
    | plain hplain' => rfl
    | unclosed => rfl
    | reference hplain' =>
      obtain ⟨-, rfl⟩ := append_opening_inj hplain hplain' htext
      exact absurd (List.mem_append_right _ List.mem_cons_self) hopen
  | reference hplain hname hrest ih =>
    generalize htext : _ ++ (opening ++ _) = text at h'
    cases h' with
    | plain hplain' => exact absurd (htext ▸ hopens _ _) hplain'
    | unclosed hplain' hopen' =>
      obtain ⟨-, rfl⟩ := append_opening_inj hplain hplain' htext
      exact absurd (List.mem_append_right _ List.mem_cons_self) hopen'
    | reference hplain' hname' hrest' =>
      obtain ⟨rfl, hbehind⟩ := append_opening_inj hplain hplain' htext
      obtain ⟨rfl, rfl⟩ := append_brace_inj hname hname' hbehind
      rw [ih hrest']

/-- **A text is expanded once, from left to right.** It is taken apart in one way, whatever the
environment. What it is expanded to are these parts, with the values of the names in the references,
and so it is in a loop over its bytes, which gets to the end. If nothing is left open in the text,
and no opening begins with its last character, then it can be expanded apart from what follows. -/
theorem expanded_once (text : String) : ∃ parts : Parts,
    TakenApart text.toList parts ∧
    (∀ parts', TakenApart text.toList parts' → parts' = parts) ∧
    (∀ env : Environment,
      (env.expand text).toList = parts.write env.value? ∧
      ∀ n, text.length ≤ n →
        Scan.run env (n + 1) ⟨[], text.toList⟩ = some (env.expand text).toList) ∧
    (¬ opening <:+: parts.tail → ∀ more : String,
      ¬ (text.toList.getLast? = some '$' ∧ more.toList.head? = some '{') →
      ∀ env : Environment, env.expand (text ++ more) = env.expand text ++ env.expand more) := by
  obtain ⟨parts, hparts⟩ := exists_takenApart text.toList
  have hexpand (env : Environment) : (env.expand text).toList = parts.write env.value? := by
    rw [expand, String.toList_ofList, hparts.expandChars_eq]
  refine ⟨parts, hparts, fun _ h => h.unique hparts, fun env => ⟨hexpand env, fun n hn => ?_⟩, ?_⟩
  · rw [hexpand, hparts.run_eq env [] (String.length_toList ▸ hn)]
    rfl
  · intro htail more happart env
    rw [expand, expand, expand, String.toList_append, hparts.expandChars_append env htail happart,
      String.ofList_append]

/-- A value that looks like a reference stays as it is, even behind a dollar sign. -/
example : expand ⟨[("b", "${x}"), ("x", "y")]⟩ "$${b}${}" = "$${x}" := by
  cbv

end Environment

end BuildReport
