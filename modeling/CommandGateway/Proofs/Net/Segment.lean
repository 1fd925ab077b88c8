import CommandGateway.Proofs.Net.Escape
import CommandGateway.Proofs.Net.Place
import Mathlib.Data.List.Flatten

/- Names as segments of a path. A name is put into a URL as it stands, and the segment that is read
   there names it again only if no character of it means something else to a URL. -/
namespace CommandGateway.Net

open Text

/-- A name that a URL keeps as one segment and that has nothing to decode. -/
structure Verbatim (name : String) : Prop where
  whole : ∀ c ∈ name.toList, endsAuthority c = false
  counts : ∀ c ∈ name.toList, isIgnored c = false
  ending : ∀ c ∈ name.toList.getLast?, isStripped c = false
  literal : percentDecode (utf8 name) = utf8 name
  notDot : name ≠ "."
  notDotDot : name ≠ ".."

def isVerbatim (name : String) : Bool :=
  name.toList.all (fun c => !endsAuthority c && !isIgnored c) &&
    name.toList.getLast?.all (!isStripped ·) &&
    decide (percentDecode (utf8 name) = utf8 name ∧ name ≠ "." ∧ name ≠ "..")

theorem is_verbatim_iff {name : String} : isVerbatim name = true ↔ Verbatim name := by
  simp only [isVerbatim, Bool.and_eq_true, List.all_eq_true, Option.all_eq_true, decide_eq_true_eq,
    Bool.not_eq_true']
  constructor
  · rintro ⟨⟨counts, ending⟩, literal, notDot, notDotDot⟩
    exact ⟨fun c member => (counts c member).1, fun c member => (counts c member).2, ending,
      literal, notDot, notDotDot⟩
  · rintro ⟨whole, counts, ending, literal, notDot, notDotDot⟩
    exact ⟨⟨fun c member => ⟨whole c member, counts c member⟩, ending⟩, literal, notDot, notDotDot⟩

section Dots

def dotForms : List (List Char) := [['.'], ['%', '2', 'e'], ['%', '2', 'E']]

variable {cs : List Char}

theorem lower_form (small : ∀ c ∈ cs, c.toNat < 0x80)
    (form : cs.map lowerChar = ['.'] ∨ cs.map lowerChar = ['%', '2', 'e']) : cs ∈ dotForms := by
  have all : ∀ n < 0x80, ((Char.ofNat n).toLower = '.' → Char.ofNat n = '.') ∧
      ((Char.ofNat n).toLower = '%' → Char.ofNat n = '%') ∧
      ((Char.ofNat n).toLower = '2' → Char.ofNat n = '2') ∧
      ((Char.ofNat n).toLower = 'e' → Char.ofNat n = 'e' ∨ Char.ofNat n = 'E') := by
    decide +kernel
  have lowered : ∀ c ∈ cs, lowerChar c = c.toLower := fun c member => if_pos (small c member)
  have chars : ∀ c ∈ cs, (lowerChar c = '.' → c = '.') ∧ (lowerChar c = '%' → c = '%') ∧
      (lowerChar c = '2' → c = '2') ∧ (lowerChar c = 'e' → c = 'e' ∨ c = 'E') := by
    intro c member
    rw [lowered c member]
    have own := all c.toNat (small c member)
    rwa [Char.ofNat_toNat] at own
  match cs with
  | [c] =>
    rcases form with form | form
    · have dot := (chars c (by simp)).1 (by simpa using form)
      simp [dot, dotForms]
    · simp at form
  | [c, d, e] =>
    rcases form with form | form
    · simp at form
    · simp only [List.map_cons, List.cons.injEq, List.map_nil, and_true] at form
      have first := (chars c (by simp)).2.1 form.1
      have second := (chars d (by simp)).2.2.1 form.2.1
      rcases (chars e (by simp)).2.2.2 form.2.2 with third | third <;>
        simp [first, second, third, dotForms]
  | [] | [c, d] | c :: d :: e :: f :: rest => simp at form

variable {s : String}

theorem dot_form (small : ∀ c ∈ s.toList, c.toNat < 0x80) (dot : isDot s) :
    s.toList ∈ dotForms := by
  rcases Bool.or_eq_true_iff.mp dot with same | lowered
  · have same : s = "." := by simpa using same
    simp [same, dotForms]
  · have lowered : lowercase s = "%2e" := by simpa using lowered
    exact lower_form small (.inr (by rw [← lower_ascii_text small, lowered]; rfl))

theorem dots_form (small : ∀ c ∈ s.toList, c.toNat < 0x80) (dots : isDotDot s) :
    ∃ first ∈ dotForms, ∃ second ∈ dotForms, s.toList = first ++ second := by
  have forms : ∃ a b : List Char, (a = ['.'] ∨ a = ['%', '2', 'e']) ∧
      (b = ['.'] ∨ b = ['%', '2', 'e']) ∧ (lowercase s).toList = a ++ b := by
    have member : lowercase s ∈ ["..", ".%2e", "%2e.", "%2e%2e"] := List.contains_iff_mem.mp dots
    simp only [List.mem_cons, List.not_mem_nil, or_false] at member
    rcases member with same | same | same | same <;> rw [same]
    · exact ⟨_, _, .inl rfl, .inl rfl, rfl⟩
    · exact ⟨_, _, .inl rfl, .inr rfl, rfl⟩
    · exact ⟨_, _, .inr rfl, .inl rfl, rfl⟩
    · exact ⟨_, _, .inr rfl, .inr rfl, rfl⟩
  obtain ⟨a, b, formA, formB, spelt⟩ := forms
  rw [lower_ascii_text small] at spelt
  obtain ⟨first, second, cut, rfl, rfl⟩ := List.map_eq_append_iff.mp spelt
  rw [cut] at small
  obtain ⟨smallA, smallB⟩ := List.forall_mem_append.mp small
  exact ⟨first, lower_form smallA formA, second, lower_form smallB formB, cut⟩

theorem dot_decodes (small : ∀ c ∈ s.toList, c.toNat < 0x80) :
    (isDot s → percentDecode (utf8 s) = utf8 ".") ∧
      (isDotDot s → percentDecode (utf8 s) = utf8 "..") := by
  have one : ∀ x ∈ dotForms, percentDecode (utf8 (String.ofList x)) = utf8 "." := by decide
  have two : ∀ x ∈ dotForms, ∀ y ∈ dotForms,
      percentDecode (utf8 (String.ofList (x ++ y))) = utf8 ".." := by decide
  constructor
  · intro dot
    have decoded := one _ (dot_form small dot)
    rwa [String.ofList_toList] at decoded
  · intro dots
    obtain ⟨x, hx, y, hy, cut⟩ := dots_form small dots
    have decoded := two x hx y hy
    rwa [← cut, String.ofList_toList] at decoded

end Dots
section Cut
variable {α : Type} {p : α → Bool} {cs piece : List α}

theorem pieces_part (member : piece ∈ pieces p cs) :
    piece.Sublist cs ∧ ∀ c ∈ piece, p c = false := by
  induction cs generalizing piece with
  | nil =>
    obtain rfl := List.mem_singleton.mp member
    simp
  | cons c cs ih =>
    obtain ⟨first, others, cut⟩ := List.exists_cons_of_ne_nil (pieces_ne_nil (p := p) cs)
    rw [cut] at ih
    simp only [pieces, cut] at member
    split at member
    · rcases List.mem_cons.mp member with rfl | later
      · simp
      · exact ⟨(ih later).1.cons c, (ih later).2⟩
    · rename_i plain
      rcases List.mem_cons.mp member with rfl | later
      · obtain ⟨sub, free⟩ := ih List.mem_cons_self
        exact ⟨sub.cons_cons c, List.forall_mem_cons.mpr ⟨(Bool.not_eq_true _).mp plain, free⟩⟩
      · obtain ⟨sub, free⟩ := ih (List.mem_cons_of_mem _ later)
        exact ⟨sub.cons c, free⟩

/-- The last segment stays the last, but a dot segment leaves an empty one. -/
theorem resolve_last (segments : List String) (last : String) (done : List String) :
    (resolveDots done (segments ++ [last])).getLast? =
      some (if isDotDot last then "" else if isDot last then "" else last) := by
  induction segments generalizing done with
  | nil =>
    simp only [List.nil_append, resolveDots]
    split
    · simp
    · split <;> simp
  | cons segment rest ih =>
    obtain ⟨next, more, spelt⟩ := List.exists_cons_of_ne_nil
      (List.append_ne_nil_of_right_ne_nil rest (List.cons_ne_nil last []))
    simp only [spelt] at ih
    rw [List.cons_append, spelt, resolveDots]
    split
    · exact ih _
    · split <;> exact ih _

end Cut

section Bytes

theorem decode_length_le (bs : Bytes) : (percentDecode bs).length ≤ bs.length := by
  fun_induction percentDecode bs <;> simp_all; omega

theorem utf8_injective {s t : String} (same : utf8 s = utf8 t) : s = t := by
  have read := of_utf8_utf8 s
  rw [same, of_utf8_utf8] at read
  exact (Option.some.inj read).symm

theorem whole_of_bytes {part whole : List Char} (sub : part.Sublist whole)
    (long : (utf8 (String.ofList whole)).length ≤ (utf8 (String.ofList part)).length) :
    part = whole := by
  rw [utf8_of_list, utf8_of_list] at long
  have bytes := (sub.flatMap String.utf8EncodeChar).eq_of_length_le long
  rw [← utf8_of_list, ← utf8_of_list] at bytes
  simpa using congrArg String.toList (utf8_injective bytes)

theorem encode_small (special : List Char) (cs : List Char) :
    ∀ c ∈ (percentEncode special cs).toList, c.toNat < 0x80 := by
  intro c member
  rw [percentEncode, String.toList_ofList] at member
  obtain ⟨d, -, inside⟩ := List.mem_flatMap.mp member
  unfold encodeChar at inside
  split at inside
  · obtain ⟨b, -, digit⟩ := List.mem_flatMap.mp inside
    exact encode_byte_small b c digit
  · rename_i literal
    obtain rfl := List.mem_singleton.mp inside
    simp only [mustEncode, Bool.or_eq_true, decide_eq_true_eq, not_or] at literal
    omega

end Bytes

def segmentOf (name : String) : String := percentEncode pathSpecials name.toList

section Names
variable {name word : String} {segments : List String} {root : Url} {host : String} {port : Nat}

theorem segment_decodes (name : String) :
    percentDecode (utf8 (segmentOf name)) = percentDecode (utf8 name) := by
  rw [segmentOf, decode_encode, String.ofList_toList]

theorem verbatim_kept (verbatim : Verbatim name) :
    isDot (segmentOf name) = false ∧ isDotDot (segmentOf name) = false := by
  have decodes := (segment_decodes name).trans verbatim.literal
  obtain ⟨one, two⟩ := dot_decodes (encode_small pathSpecials name.toList)
  constructor
  · by_contra dot
    have same := decodes.symm.trans (one ((Bool.not_eq_false _).mp dot))
    exact verbatim.notDot (utf8_injective same)
  · by_contra dots
    have same := decodes.symm.trans (two ((Bool.not_eq_false _).mp dots))
    exact verbatim.notDotDot (utf8_injective same)

theorem verbatim_empty : Verbatim "" :=
  ⟨by simp, by simp, by simp, rfl, by decide, by decide⟩

theorem path_verbatim (plain : Plain word) (verbatim : Verbatim name)
    (others : ∀ s ∈ segments, Plain s) :
    pathOf (word.toList ++ '/' :: (name.toList ++ below segments)) =
      word :: segmentOf name :: segments := by
  have noSlash : ∀ c ∈ name.toList, isSlash c = false := by
    intro c member
    have inside := verbatim.whole c member
    simp only [endsAuthority, Bool.or_eq_false_iff] at inside
    exact inside.1.1
  have cut : pieces isSlash (name.toList ++ below segments) =
      name.toList :: segments.map String.toList := by
    cases segments with
    | nil => simpa [below] using pieces_piece noSlash (rfl : pieces isSlash [] = [] :: [])
    | cons s rest =>
      have spelt : below (s :: rest) = '/' :: (s.toList ++ below rest) := by simp [below]
      rw [spelt, pieces_piece noSlash
        ((pieces_separator rfl _).trans (by rw [pieces_below others]))]
      simp
  have literal : ∀ s, Plain s → percentEncode pathSpecials s.toList = s := fun s own => by
    simp [encode_unreserved own.unreserved]
  have kept : ∀ s ∈ word :: segmentOf name :: segments, isDot s = false ∧ isDotDot s = false := by
    have own : ∀ s, Plain s → isDot s = false ∧ isDotDot s = false :=
      fun s plain => ⟨plain_not_dot plain, plain_not_dot_dot plain⟩
    simp only [List.forall_mem_cons]
    exact ⟨own word plain, verbatim_kept verbatim, fun s member => own s (others s member)⟩
  have encoded : segments.map (percentEncode pathSpecials ∘ String.toList) = segments := by
    conv_rhs => rw [← List.map_id segments]
    exact List.map_congr_left fun s member => literal s (others s member)
  rw [pathOf, pieces_piece (plain_no_slash plain) ((pieces_separator rfl _).trans (by rw [cut]))]
  simp only [List.append_nil, List.map_cons, List.map_map, literal word plain, encoded]
  exact resolve_kept kept (List.cons_ne_nil _ _) []

theorem last_append {P : Char → Prop} {first second : List Char}
    (one : ∀ c ∈ first.getLast?, P c) (two : ∀ c ∈ second.getLast?, P c) :
    ∀ c ∈ (first ++ second).getLast?, P c := by
  intro c member
  rw [List.getLast?_append, Option.mem_def, Option.or_eq_some_iff] at member
  rcases member with last | ⟨-, last⟩
  · exact two c last
  · exact one c last

theorem verbatim_facts (plain : Plain word) (verbatim : Verbatim name)
    (others : ∀ s ∈ segments, Plain s) :
    ∀ c ∈ '/' :: (word.toList ++ '/' :: (name.toList ++ below segments)),
      isIgnored c = false ∧ c ≠ '?' ∧ c ≠ '#' := by
  intro c member
  simp only [List.mem_cons, List.mem_append] at member
  have slash : c = '/' → isIgnored c = false ∧ c ≠ '?' ∧ c ≠ '#' := by
    rintro rfl
    decide
  rcases member with first | inWord | second | inName | behind
  · exact slash first
  · have inert := unreserved_inert (plain.unreserved c inWord)
    exact ⟨inert.counts.2, inert.noEnd⟩
  · exact slash second
  · have whole := verbatim.whole c inName
    simp only [endsAuthority, Bool.or_eq_false_iff, decide_eq_false_iff_not] at whole
    exact ⟨verbatim.counts c inName, whole.1.2, whole.2⟩
  · exact (below_facts others c behind).2

theorem address_verbatim (whole : ∀ c ∈ host.toList, endsAuthority c = false)
    (read : Url.ofText? (addressText host port) = some root) (plain : Plain word)
    (verbatim : Verbatim name) (others : ∀ s ∈ segments, Plain s) {place : String}
    (spelt : place.toList = (addressText host port).toList ++
      '/' :: (word.toList ++ '/' :: (name.toList ++ below segments))) :
    Url.ofText? place = some (root.below (word :: segmentOf name :: segments)) := by
  have facts := verbatim_facts plain verbatim others
  have slash : isStripped '/' = false := rfl
  have last : ∀ c ∈ ('/' :: (word.toList ++ '/' :: (name.toList ++ below segments))).getLast?,
      isStripped c = false := by
    have cut : '/' :: (word.toList ++ '/' :: (name.toList ++ below segments)) =
        ('/' :: word.toList ++ ['/']) ++ (name.toList ++ below segments) := by simp
    rw [cut]
    refine last_append (last_append ?_ (by simp [slash])) (last_append verbatim.ending ?_)
    · intro c member
      rcases List.mem_cons.mp (List.mem_of_getLast? member) with rfl | inWord
      · rfl
      · exact (unreserved_inert (plain.unreserved c inWord)).counts.1
    · exact fun c member => (below_facts others c (List.mem_of_getLast? member)).1
  have counts := counted_tail_kept last fun c member => (facts c member).1
  rw [address_over whole read spelt counts, over_path fun c member => (facts c member).2,
    List.drop_one, List.tail_cons, path_verbatim plain verbatim others]

theorem counted_tail_sublist (cs : List Char) : (countedTail cs).Sublist cs := by
  have stripped := (List.dropWhile_sublist isStripped (l := cs.reverse)).reverse
  rw [List.reverse_reverse] at stripped
  exact List.filter_sublist.trans stripped

theorem counted_tail_end {cs : List Char} (whole : countedTail cs = cs) :
    ∀ c ∈ cs.getLast?, isStripped c = false := by
  have long : cs.reverse.length ≤ (cs.reverse.dropWhile isStripped).length := by
    have most := List.length_filter_le (!isIgnored ·) (cs.reverse.dropWhile isStripped).reverse
    rw [← countedTail, whole, List.length_reverse] at most
    rwa [List.length_reverse]
  have all := (List.dropWhile_sublist isStripped).eq_of_length_le long
  rw [← List.head?_reverse]
  intro c first
  obtain ⟨rest, spelt⟩ := List.head?_eq_some_iff.mp first
  rw [spelt, List.dropWhile_cons] at all
  split at all
  · have shorter := congrArg List.length all
    have most := (List.dropWhile_sublist isStripped (l := rest)).length_le
    simp only [List.length_cons] at shorter
    omega
  · rename_i plain
    exact (Bool.not_eq_true _).mp plain

def pathPart (name : List Char) : List Char :=
  ((countedTail name).takeWhile (· ≠ '#')).takeWhile (· ≠ '?')

theorem over_path_last (root : Url) (plain : Plain word) (cs : List Char) :
    ∃ last ∈ pieces isSlash ((cs.takeWhile (· ≠ '#')).takeWhile (· ≠ '?')),
      (root.over ('/' :: (word.toList ++ '/' :: cs))).path.getLast? =
        some (if isDotDot (percentEncode pathSpecials last) then ""
          else if isDot (percentEncode pathSpecials last) then ""
          else percentEncode pathSpecials last) := by
  have front : ∀ mark, isUnreserved mark = false → mark ≠ '/' → ∀ rest : List Char,
      ('/' :: (word.toList ++ '/' :: rest)).takeWhile (· ≠ mark) =
        '/' :: (word.toList ++ '/' :: rest.takeWhile (· ≠ mark)) := by
    intro mark reserved slash rest
    have all : ∀ c ∈ '/' :: (word.toList ++ ['/']), decide (c ≠ mark) = true := by
      intro c member
      refine decide_eq_true ?_
      rintro rfl
      simp only [List.mem_cons, List.mem_append, slash, List.not_mem_nil, or_false, false_or]
        at member
      exact absurd (plain.unreserved c member) (by simp [reserved])
    have spelt : ∀ rest : List Char, '/' :: (word.toList ++ '/' :: rest) =
        '/' :: (word.toList ++ ['/']) ++ rest := by simp
    rw [spelt, List.takeWhile_append_of_pos all, ← spelt]
  generalize cut : (cs.takeWhile (· ≠ '#')).takeWhile (· ≠ '?') = part
  have path : (root.over ('/' :: (word.toList ++ '/' :: cs))).path =
      resolveDots [] ((word.toList :: pieces isSlash part).map (percentEncode pathSpecials)) := by
    simp only [Url.over]
    rw [front '#' rfl (by decide), front '?' rfl (by decide), cut, List.drop_one, List.tail_cons,
      pathOf, pieces_piece (plain_no_slash plain) (pieces_separator rfl _), List.append_nil]
  have nonempty := pieces_ne_nil (p := isSlash) part
  refine ⟨_, List.getLast_mem nonempty, ?_⟩
  conv_lhs => rw [path, ← List.dropLast_append_getLast nonempty]
  rw [List.map_cons, List.map_append, ← List.cons_append]
  exact resolve_last _ _ _

/-- A name of which a piece has all the bytes is verbatim, unless it is a dot segment. -/
theorem verbatim_of_piece {piece : List Char}
    (member : piece ∈ pieces isSlash (pathPart name.toList))
    (names : percentDecode (utf8 (String.ofList piece)) = utf8 name)
    (dot : isDot (percentEncode pathSpecials piece) = false)
    (dots : isDotDot (percentEncode pathSpecials piece) = false) : Verbatim name := by
  obtain ⟨part, free⟩ := pieces_part member
  have inKept : (pathPart name.toList).Sublist (countedTail name.toList) :=
    (List.takeWhile_sublist _).trans (List.takeWhile_sublist _)
  have inName := counted_tail_sublist name.toList
  have all : piece = name.toList := by
    refine whole_of_bytes (part.trans (inKept.trans inName)) ?_
    rw [String.ofList_toList, ← names]
    exact decode_length_le _
  subst all
  have whole : countedTail name.toList = name.toList :=
    inName.antisymm (part.trans inKept)
  rw [String.ofList_toList] at names
  refine ⟨?_, ?_, counted_tail_end whole, names, ?_, ?_⟩
  · intro c inside
    have first := part.subset inside
    have query := List.mem_takeWhile_imp first
    have fragment := List.mem_takeWhile_imp ((List.takeWhile_sublist _).subset first)
    simp_all [endsAuthority]
  · intro c inside
    rw [← whole] at inside
    simpa using (List.mem_filter.mp inside).2
  · rintro rfl
    exact absurd dot (by decide)
  · rintro rfl
    exact absurd dots (by decide)

/-- Behind an address and a plain word only a verbatim name is read as a segment that names it. -/
theorem address_names_verbatim (whole : ∀ c ∈ host.toList, endsAuthority c = false)
    (read : Url.ofText? (addressText host port) = some root) (plain : Plain word)
    {place segment : String} {url : Url}
    (spelt : place.toList = (addressText host port).toList ++
      '/' :: (word.toList ++ '/' :: name.toList))
    (reads : Url.ofText? place = some url) (path : url.path = [word, segment])
    (names : percentDecode (utf8 segment) = utf8 name) : Verbatim name := by
  have counts : countedTail ('/' :: (word.toList ++ '/' :: name.toList)) =
      '/' :: (word.toList ++ '/' :: countedTail name.toList) := by
    have last : ∀ c ∈ (('/' :: word.toList) ++ ['/']).getLast?, isStripped c = false := by
      rw [List.getLast?_concat]
      rintro c ⟨⟩
      rfl
    have front := counted_tail_append name.toList last
    have kept : word.toList.filter (!isIgnored ·) = word.toList :=
      List.filter_eq_self.mpr fun c member => by
        simp [(unreserved_inert (plain.unreserved c member)).counts.2]
    have slash : isIgnored '/' = false := rfl
    simpa [kept, slash] using front
  rw [address_over whole read spelt counts] at reads
  cases reads
  obtain ⟨last, member, ends⟩ := over_path_last root plain (countedTail name.toList)
  rw [path] at ends
  have last_eq : segment = _ := Option.some.inj ends
  have empty : segment = "" → Verbatim name := by
    rintro rfl
    obtain rfl : "" = name := utf8_injective names
    exact verbatim_empty
  split at last_eq
  · exact empty last_eq
  · split at last_eq
    · exact empty last_eq
    · rename_i dots dot
      rw [last_eq, decode_encode] at names
      exact verbatim_of_piece member names ((Bool.not_eq_true _).mp dot)
        ((Bool.not_eq_true _).mp dots)

end Names
end CommandGateway.Net
