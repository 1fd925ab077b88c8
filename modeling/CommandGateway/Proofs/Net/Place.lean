import CommandGateway.Net.Url
import Mathlib.Data.List.Basic
import Mathlib.Data.List.TakeWhile

/- Places below an address. An address that is nothing but a scheme, a host and a port keeps them
   when plain segments are put behind it, and the segments are the path. -/
namespace CommandGateway.Net

def isUnreserved (c : Char) : Bool := c.isAlphanum || ['-', '.', '_', '~'].contains c

/-- A segment that stands for itself, and for no step up or none at all. -/
structure Plain (segment : String) : Prop where
  unreserved : ∀ c ∈ segment.toList, isUnreserved c
  notDot : segment ≠ "."
  notDotDot : segment ≠ ".."

def below (segments : List String) : List Char := segments.flatMap fun s => '/' :: s.toList

/-- Reading a URL makes nothing of such a character. -/
structure Inert (c : Char) : Prop where
  counts : isStripped c = false ∧ isIgnored c = false
  noSlash : isSlash c = false
  noEnd : c ≠ '?' ∧ c ≠ '#'
  literal : mustEncode pathSpecials c = false
  lower : Text.lowerChar c ≠ '%'
  dot : Text.lowerChar c = '.' → c = '.'

section Characters
variable {c : Char}

theorem unreserved_ascii (own : isUnreserved c) : c.toNat < 0x80 := by
  rcases Bool.or_eq_true_iff.mp own with alphanumeric | mark
  · have ranges : (decide (65 ≤ c.val ∧ c.val ≤ 90) ||
        decide (97 ≤ c.val) && decide (c.val ≤ 122) ||
        decide (48 ≤ c.val) && decide (c.val ≤ 57)) = true := alphanumeric
    simp only [Bool.or_eq_true, Bool.and_eq_true, decide_eq_true_eq,
      UInt32.le_iff_toNat_le] at ranges
    change ((65 ≤ c.toNat ∧ c.toNat ≤ 90) ∨ (97 ≤ c.toNat ∧ c.toNat ≤ 122)) ∨
      (48 ≤ c.toNat ∧ c.toNat ≤ 57) at ranges
    omega
  · have marks : ∀ d ∈ ['-', '.', '_', '~'], d.toNat < 0x80 := by simp
    exact marks c (by simpa using mark)

theorem unreserved_inert (own : isUnreserved c) : Inert c := by
  have all : ∀ n < 0x80, isUnreserved (Char.ofNat n) →
      (isStripped (Char.ofNat n) = false ∧ isIgnored (Char.ofNat n) = false) ∧
      isSlash (Char.ofNat n) = false ∧ (Char.ofNat n ≠ '?' ∧ Char.ofNat n ≠ '#') ∧
      mustEncode pathSpecials (Char.ofNat n) = false ∧ (Char.ofNat n).toLower ≠ '%' ∧
      ((Char.ofNat n).toLower = '.' → Char.ofNat n = '.') := by decide
  have small := unreserved_ascii own
  have lowered : Text.lowerChar c = c.toLower := if_pos small
  have facts := all c.toNat small
  rw [Char.ofNat_toNat] at facts
  obtain ⟨counts, noSlash, noEnd, literal, percent, dot⟩ := facts own
  exact ⟨counts, noSlash, noEnd, literal, lowered ▸ percent, lowered ▸ dot⟩

theorem encode_unreserved {cs : List Char} (own : ∀ c ∈ cs, isUnreserved c) :
    percentEncode pathSpecials cs = String.ofList cs := by
  have same : cs.flatMap (encodeChar pathSpecials) = cs.flatMap fun c => [c] :=
    List.flatMap_congr fun c member => by
      have literal := (unreserved_inert (own c member)).literal
      simp only [encodeChar, literal, Bool.false_eq_true, if_false]
  rw [percentEncode, same, List.flatMap_singleton']

theorem lower_ascii {cs : List Char} (small : ∀ c ∈ cs, c.toNat < 0x80) (before : List Char) :
    Text.lowerFrom before cs = cs.map Text.lowerChar := by
  induction cs generalizing before with
  | nil => rfl
  | cons c cs ih =>
    obtain ⟨first, others⟩ := List.forall_mem_cons.mp small
    have sigma : c ≠ '\u03a3' := by
      rintro rfl
      exact absurd first (by decide)
    have dotted : c ≠ '\u0130' := by
      rintro rfl
      exact absurd first (by decide)
    simp only [Text.lowerFrom, if_neg sigma, if_neg dotted, ih others, List.map_cons]
    rfl

theorem lower_ascii_text {s : String} (small : ∀ c ∈ s.toList, c.toNat < 0x80) :
    (Text.lowercase s).toList = s.toList.map Text.lowerChar := by
  rw [Text.lowercase, String.toList_ofList, lower_ascii small]

end Characters

section Segments
variable {s : String}

theorem lower_plain (plain : Plain s) :
    (Text.lowercase s).toList = s.toList.map Text.lowerChar :=
  lower_ascii_text fun c member => unreserved_ascii (plain.unreserved c member)

theorem lower_no_percent (plain : Plain s) : '%' ∉ (Text.lowercase s).toList := by
  rw [lower_plain plain, List.mem_map]
  rintro ⟨c, member, same⟩
  exact (unreserved_inert (plain.unreserved c member)).lower same

theorem plain_not_dot (plain : Plain s) : isDot s = false := by
  have percent : Text.lowercase s ≠ "%2e" := by
    intro same
    exact lower_no_percent plain (same ▸ by decide)
  simp [isDot, plain.notDot, percent]

theorem plain_not_dot_dot (plain : Plain s) : isDotDot s = false := by
  have percent : ∀ t : String, '%' ∈ t.toList → Text.lowercase s ≠ t := by
    rintro t member rfl
    exact lower_no_percent plain member
  have dots : Text.lowercase s ≠ ".." := by
    intro same
    have lowered := lower_plain plain
    rw [same] at lowered
    have inert := fun c member => unreserved_inert (plain.unreserved c member)
    match spelt : s.toList with
    | [c, d] =>
      rw [spelt] at lowered inert
      have first : '.' = Text.lowerChar c := (List.cons.inj lowered).1
      have second : '.' = Text.lowerChar d := (List.cons.inj (List.cons.inj lowered).2).1
      have own : s.toList = ['.', '.'] := by
        rw [spelt, (inert c (by simp)).dot first.symm, (inert d (by simp)).dot second.symm]
      exact plain.notDotDot (String.toList_inj.mp own)
    | [] | [c] | c :: d :: e :: rest =>
      rw [spelt] at lowered
      simp at lowered
  simp [isDotDot, dots, percent ".%2e" (by decide), percent "%2e." (by decide),
    percent "%2e%2e" (by decide)]

theorem resolve_kept {segments : List String}
    (kept : ∀ s ∈ segments, isDot s = false ∧ isDotDot s = false) (some : segments ≠ [])
    (done : List String) : resolveDots done segments = done.reverse ++ segments := by
  induction segments generalizing done with
  | nil => exact absurd rfl some
  | cons first rest ih =>
    obtain ⟨⟨dot, dots⟩, others⟩ := List.forall_mem_cons.mp kept
    cases rest with
    | nil => simp [resolveDots, dot, dots]
    | cons second rest =>
      simp only [resolveDots, dot, dots, Bool.false_eq_true, if_false]
      rw [ih others (List.cons_ne_nil _ _)]
      simp

end Segments

section Cut
variable {α : Type} {p : α → Bool}

theorem pieces_ne_nil (cs : List α) : Text.pieces p cs ≠ [] := by
  cases cs with
  | nil => simp [Text.pieces]
  | cons c cs =>
    simp only [Text.pieces]
    split
    · simp
    · split <;> simp

theorem pieces_separator {c : α} (own : p c = true) (cs : List α) :
    Text.pieces p (c :: cs) = [] :: Text.pieces p cs := by
  obtain ⟨piece, rest, cut⟩ := List.exists_cons_of_ne_nil (pieces_ne_nil (p := p) cs)
  simp only [Text.pieces, cut, own, if_true]

theorem pieces_piece {cs : List α} (own : ∀ c ∈ cs, p c = false) {rest piece : List α}
    {others : List (List α)} (cut : Text.pieces p rest = piece :: others) :
    Text.pieces p (cs ++ rest) = (cs ++ piece) :: others := by
  induction cs with
  | nil => exact cut
  | cons c cs ih =>
    obtain ⟨first, later⟩ := List.forall_mem_cons.mp own
    simp only [List.cons_append, Text.pieces, ih later, first, Bool.false_eq_true, if_false]

end Cut

section Paths
variable {segments : List String}

theorem plain_no_slash {s : String} (plain : Plain s) : ∀ c ∈ s.toList, isSlash c = false :=
  fun c member => (unreserved_inert (plain.unreserved c member)).noSlash

theorem pieces_below {s : String} (plain : ∀ t ∈ s :: segments, Plain t) :
    Text.pieces isSlash (s.toList ++ below segments) = (s :: segments).map String.toList := by
  induction segments generalizing s with
  | nil =>
    have ends : Text.pieces isSlash [] = [] :: [] := rfl
    have alone := pieces_piece (plain_no_slash (plain s List.mem_cons_self)) ends
    simpa [below] using alone
  | cons t rest ih =>
    obtain ⟨own, others⟩ := List.forall_mem_cons.mp plain
    have cut : Text.pieces isSlash (below (t :: rest)) = [] :: (t :: rest).map String.toList := by
      have spelt : below (t :: rest) = '/' :: (t.toList ++ below rest) := by simp [below]
      rw [spelt, pieces_separator rfl, ih others]
    rw [pieces_piece (plain_no_slash own) cut]
    simp

theorem path_below (plain : ∀ s ∈ segments, Plain s) (some : segments ≠ []) :
    pathOf ((below segments).drop 1) = segments := by
  obtain ⟨s, rest, rfl⟩ := List.exists_cons_of_ne_nil some
  have spelt : (below (s :: rest)).drop 1 = s.toList ++ below rest := by simp [below]
  have literal : ((s :: rest).map String.toList).map (percentEncode pathSpecials) = s :: rest := by
    rw [List.map_map]
    conv_rhs => rw [← List.map_id (s :: rest)]
    refine List.map_congr_left fun t member => ?_
    simp [encode_unreserved (plain t member).unreserved]
  rw [pathOf, spelt, pieces_below plain, literal,
    resolve_kept
      (fun t member => ⟨plain_not_dot (plain t member), plain_not_dot_dot (plain t member)⟩)
      some]
  rfl

theorem below_inert (plain : ∀ s ∈ segments, Plain s) :
    ∀ c ∈ below segments, c = '/' ∨ Inert c := by
  intro c member
  obtain ⟨s, here, member⟩ := List.mem_flatMap.mp member
  rcases List.mem_cons.mp member with slash | inside
  · exact Or.inl slash
  · exact Or.inr (unreserved_inert ((plain s here).unreserved c inside))

theorem below_facts (plain : ∀ s ∈ segments, Plain s) : ∀ c ∈ below segments,
    isStripped c = false ∧ isIgnored c = false ∧ c ≠ '?' ∧ c ≠ '#' := by
  intro c member
  rcases below_inert plain c member with rfl | inert
  · decide
  · exact ⟨inert.counts.1, inert.counts.2, inert.noEnd⟩

theorem below_start (some : segments ≠ []) : ∃ rest, below segments = '/' :: rest := by
  obtain ⟨s, rest, rfl⟩ := List.exists_cons_of_ne_nil some
  exact ⟨s.toList ++ below rest, by simp [below]⟩

end Paths

def Url.below (root : Url) (segments : List String) : Url :=
  { root with path := segments, query := none, fragment := none }

def Url.over (root : Url) (rest : List Char) : Url :=
  let beforeFragment := rest.takeWhile (· ≠ '#')
  { root with
    path := pathOf ((beforeFragment.takeWhile (· ≠ '?')).drop 1)
    query := (after? '?' beforeFragment).map (percentEncode querySpecials)
    fragment := (after? '#' rest).map (percentEncode fragmentSpecials) }

def countedTail (cs : List Char) : List Char :=
  ((cs.reverse.dropWhile isStripped).reverse).filter (!isIgnored ·)

section Tails
variable {segments : List String} {root : Url} {cs : List Char}

theorem take_whole {α : Type} {p : α → Bool} {cs : List α} (all : ∀ c ∈ cs, p c = true) :
    cs.takeWhile p = cs ∧ cs.dropWhile p = [] := by
  exact ⟨List.takeWhile_eq_self_iff.mpr all, List.dropWhile_eq_nil_iff.mpr all⟩

theorem after_none {c : Char} {cs : List Char} (absent : ∀ d ∈ cs, d ≠ c) : after? c cs = none := by
  have whole : cs.dropWhile (· ≠ c) = [] :=
    (take_whole fun d member => decide_eq_true (absent d member)).2
  rw [after?, whole]

theorem over_path (absent : ∀ c ∈ cs, c ≠ '?' ∧ c ≠ '#') :
    root.over cs = root.below (pathOf (cs.drop 1)) := by
  have beforeFragment : cs.takeWhile (· ≠ '#') = cs :=
    (take_whole fun c member => decide_eq_true (absent c member).2).1
  have beforeQuery : cs.takeWhile (· ≠ '?') = cs :=
    (take_whole fun c member => decide_eq_true (absent c member).1).1
  have noQuery : after? '?' cs = none := after_none fun c member => (absent c member).1
  have noFragment : after? '#' cs = none := after_none fun c member => (absent c member).2
  simp only [Url.over, Url.below, beforeFragment, beforeQuery, noQuery, noFragment,
    Option.map_none]

theorem over_below (plain : ∀ s ∈ segments, Plain s) (nonempty : segments ≠ []) :
    root.over (below segments) = root.below segments := by
  rw [over_path fun c member => (below_facts plain c member).2.2, path_below plain nonempty]

theorem counted_tail_append {first : List Char} (tail : List Char)
    (last : ∀ c ∈ first.getLast?, isStripped c = false) :
    countedTail (first ++ tail) = first.filter (!isIgnored ·) ++ countedTail tail := by
  have back : first.reverse.dropWhile isStripped = first.reverse := by
    rw [← List.head?_reverse] at last
    cases spelt : first.reverse with
    | nil => rfl
    | cons c rest =>
      rw [spelt] at last
      simp [last c rfl]
  rw [countedTail, countedTail, List.reverse_append, List.dropWhile_append]
  split
  · rename_i nothing
    rw [List.isEmpty_iff] at nothing
    simp [back, nothing]
  · simp

theorem counted_tail_kept (last : ∀ c ∈ cs.getLast?, isStripped c = false)
    (counts : ∀ c ∈ cs, isIgnored c = false) : countedTail cs = cs := by
  have whole := counted_tail_append [] last
  rw [List.append_nil] at whole
  rw [whole, List.filter_eq_self.mpr fun c member => by simp [counts c member]]
  simp [countedTail]

end Tails

section Addresses
variable {segments : List String} {root : Url}

theorem authority_over {cs more : List Char} (own : ∀ c ∈ cs, endsAuthority c = false)
    (read : Url.ofAuthority? cs = some root) :
    Url.ofAuthority? (cs ++ '/' :: more) = some (root.over ('/' :: more)) := by
  have open_ : ∀ c ∈ cs, (!endsAuthority c) = true := fun c member => by simp [own c member]
  obtain ⟨authority, nothing⟩ := take_whole open_
  have longer : (cs ++ '/' :: more).takeWhile (!endsAuthority ·) = cs ∧
      (cs ++ '/' :: more).dropWhile (!endsAuthority ·) = '/' :: more := by
    have slash : endsAuthority '/' = true := rfl
    rw [List.takeWhile_append_of_pos open_, List.dropWhile_append_of_pos open_]
    simp [slash]
  unfold Url.ofAuthority? at read ⊢
  simp only [authority, nothing] at read
  simp only [longer]
  split at read
  · cases read
    rfl
  · cases read

theorem of_text_http {s : String} {cs : List Char}
    (text : counted s.toList = "http://".toList ++ cs)
    (start : ∀ c ∈ cs.head?, isSlash c = false) : Url.ofText? s = Url.ofAuthority? cs := by
  have named : ((counted s.toList).take scheme.length).map Char.toLower = scheme := by
    rw [text]
    rfl
  have rest : ((counted s.toList).drop scheme.length).dropWhile isSlash = cs := by
    have slashes : ("http://".toList ++ cs).drop scheme.length = '/' :: '/' :: cs := rfl
    have slash : isSlash '/' = true := rfl
    rw [text, slashes, List.dropWhile_cons_of_pos slash, List.dropWhile_cons_of_pos slash]
    cases cs with
    | nil => rfl
    | cons c cs => simp [start c rfl]
  unfold Url.ofText?
  simp only [named, if_true, rest]

theorem digits_count (n : Nat) : ∀ c ∈ Nat.toDigits 10 n, isStripped c = false ∧
    isIgnored c = false ∧ endsAuthority c = false := by
  intro c member
  have digit : c.isDigit := Nat.isDigit_of_mem_toDigits (by decide) (by decide) member
  have own : isUnreserved c := by simp [isUnreserved, Char.isAlphanum, digit]
  have inert := unreserved_inert own
  simp [endsAuthority, inert.counts, inert.noSlash, inert.noEnd]

def addressText (host : String) (port : Nat) : String := "http://" ++ host ++ ":" ++ toString port

def authorityOf (host : String) (port : Nat) : List Char :=
  host.toList.filter (!isIgnored ·) ++ ':' :: Nat.toDigits 10 port

theorem counted_address (host : String) (port : Nat) (tail : List Char) :
    counted ((addressText host port).toList ++ tail) =
      "http://".toList ++ (authorityOf host port ++ countedTail tail) := by
  have spelt : (addressText host port).toList =
      "http://".toList ++ host.toList ++ ':' :: Nat.toDigits 10 port := by
    simp [addressText]
  have digits := digits_count port
  have start : ((addressText host port).toList ++ tail).dropWhile isStripped =
      (addressText host port).toList ++ tail := by
    rw [spelt]
    rfl
  have last : ∀ c ∈ (addressText host port).toList.getLast?, isStripped c = false := by
    rw [spelt, List.getLast?_append_of_ne_nil _ (List.cons_ne_nil _ _),
      List.getLast?_cons_of_ne_nil Nat.toDigits_ne_nil]
    exact fun c member => (digits c (List.mem_of_getLast? member)).1
  have filtered : ("http://".toList ++ host.toList ++ ':' :: Nat.toDigits 10 port).filter
      (!isIgnored ·) = "http://".toList ++ authorityOf host port := by
    have kept : (Nat.toDigits 10 port).filter (!isIgnored ·) = Nat.toDigits 10 port :=
      List.filter_eq_self.mpr fun c member => by simp [(digits c member).2.1]
    have colon : isIgnored ':' = false := rfl
    rw [List.filter_append, List.filter_append, List.filter_cons_of_pos (by simp [colon]), kept,
      List.append_assoc]
    rfl
  change countedTail (((addressText host port).toList ++ tail).dropWhile isStripped) = _
  rw [start, counted_tail_append tail last, spelt, filtered, List.append_assoc]

/-- What stands behind the text of an address is read by itself. -/
theorem address_over {host : String} {port : Nat}
    (whole : ∀ c ∈ host.toList, endsAuthority c = false)
    (read : Url.ofText? (addressText host port) = some root) {place : String}
    {tail more : List Char} (spelt : place.toList = (addressText host port).toList ++ tail)
    (start : countedTail tail = '/' :: more) :
    Url.ofText? place = some (root.over ('/' :: more)) := by
  have own : ∀ c ∈ authorityOf host port, endsAuthority c = false := by
    intro c member
    rcases List.mem_append.mp member with inHost | behind
    · exact whole c (List.mem_of_mem_filter inHost)
    · rcases List.mem_cons.mp behind with rfl | digit
      · rfl
      · exact (digits_count port c digit).2.2
  have first : ∀ tail, ∀ c ∈ (authorityOf host port ++ tail).head?, isSlash c = false := by
    intro tail c first
    have member : c ∈ authorityOf host port := by
      cases front : authorityOf host port with
      | nil => simp [authorityOf] at front
      | cons d rest =>
        rw [front] at first
        cases first
        exact List.mem_cons_self
    have other := own c member
    simp only [endsAuthority, Bool.or_eq_false_iff] at other
    exact other.1.1
  have alone := counted_address host port []
  rw [List.append_nil] at alone
  have longer := counted_address host port tail
  rw [← spelt, start] at longer
  rw [of_text_http alone (first _)] at read
  rw [of_text_http longer (first _)]
  exact authority_over own (by simpa [countedTail] using read)

theorem address_below {host : String} {port : Nat}
    (whole : ∀ c ∈ host.toList, endsAuthority c = false)
    (read : Url.ofText? (addressText host port) = some root) (plain : ∀ s ∈ segments, Plain s)
    (nonempty : segments ≠ []) {place : String}
    (spelt : place.toList = (addressText host port).toList ++ below segments) :
    Url.ofText? place = some (root.below segments) := by
  obtain ⟨more, start⟩ := below_start nonempty
  have facts := below_facts plain
  have counts := counted_tail_kept (fun c member => (facts c (List.mem_of_getLast? member)).1)
    fun c member => (facts c member).2.1
  rw [address_over whole read spelt (counts.trans start), ← start, over_below plain nonempty]

end Addresses
end CommandGateway.Net
