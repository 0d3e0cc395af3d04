import FieldGuide.Proofs.NumericBounds
import FieldGuide.Proofs.Uniformity
import FieldGuide.Proofs.WrittenDates
import FieldGuide.Proofs.DaySteps
set_option autoImplicit false

/-!
# The form of example texts

A mail address, a web address, an Internet address or a date that is drawn as an example has the
form that such texts have, from every place of every stream.  The texts that can be read, the
Internet address and the date, read as what was drawn.
-/

namespace FieldGuide

/-- One of the texts is picked, and never the word that would stand for none. -/
theorem Sampler.mem_of_pick {items : List String} (hne : items ≠ []) {text : String}
    {s s' : Stream} (h : (pick items).run s = .ok (text, s')) : text ∈ items := by
  obtain ⟨choice, hchoice, rfl⟩ := bind_pure_eq_ok.mp h
  rcases element_eq_ok.mp hchoice with ⟨hnil, -⟩ | ⟨_, _, index, hindex, _, rfl, _⟩
  · exact absurd hnil hne
  · exact List.getElem_mem hindex

/-! ## Mail addresses and web addresses -/

namespace Text

/-- One small letter from a to z, or more of them. -/
def IsWord (cs : List Char) : Prop := cs ≠ [] ∧ ∀ c ∈ cs, 'a' ≤ c ∧ c ≤ 'z'

instance (cs : List Char) : Decidable (IsWord cs) :=
  @instDecidableAnd _ _ _ (List.decidableBAll (fun c => 'a' ≤ c ∧ c ≤ 'z') cs)

/-- The part of a mail address before the sign. -/
inductive IsUserName : List Char → Prop where
  | word {cs : List Char} (hword : IsWord cs) : IsUserName cs
  | dotted {front back : List Char} (hfront : IsWord front) (hback : IsWord back) :
      IsUserName (front ++ '.' :: back)
  | numbered {cs : List Char} {n : Nat} (hword : IsWord cs) (hpos : 1 ≤ n) (hle : n ≤ 99) :
      IsUserName (cs ++ Number.figures n)

/-- A user name, one sign and a domain that is reserved for examples. -/
structure IsMailAddress (cs : List Char) : Prop where
  parts : ∃ user domain, IsUserName user ∧
    domain ∈ ["example.com", "example.org", "example.net"] ∧ cs = user ++ '@' :: domain.toList
  count_sign : cs.count '@' = 1

/-- The address of a page with a name of two words on a host with a name of one. -/
def IsWebAddress (cs : List Char) : Prop :=
  ∃ scheme host suffix first second, scheme ∈ ["http", "https"] ∧ suffix ∈ hostSuffixes ∧
    IsWord host ∧ IsWord first ∧ IsWord second ∧
    cs = scheme.toList ++ "://www.".toList ++ host ++ '.' :: suffix.toList ++
      '/' :: first ++ '-' :: second

theorem isWord_of_mem_words {w : String} (h : w ∈ words) : IsWord w.toList := by
  have hall : ∀ w ∈ words, IsWord w.toList := by decide +kernel
  exact hall w h

theorem IsWord.notMem {cs : List Char} (h : IsWord cs) {c : Char} (hc : c < 'a' ∨ 'z' < c) :
    c ∉ cs := by
  intro hmem
  obtain ⟨hlow, hhigh⟩ := h.2 c hmem
  rcases hc with hc | hc
  · exact Char.not_lt.mpr hlow hc
  · exact Char.not_lt.mpr hhigh hc

theorem IsUserName.sign_notMem {cs : List Char} (h : IsUserName cs) : '@' ∉ cs := by
  cases h with
  | word hword => exact hword.notMem (.inl (by decide))
  | dotted hfront hback =>
    have hfront := hfront.notMem (.inl (by decide : '@' < 'a'))
    have hback := hback.notMem (.inl (by decide : '@' < 'a'))
    simp [hfront, hback]
  | numbered hword =>
    rw [List.mem_append, not_or]
    refine ⟨hword.notMem (.inl (by decide)), ?_⟩
    intro hmem
    exact absurd (Number.isDigit_of_mem_figures hmem) (by decide)

theorem isMailAddress_of_user {user : List Char} (huser : IsUserName user) {domain : String}
    (hdomain : domain ∈ safeDomains) : IsMailAddress (user ++ '@' :: domain.toList) := by
  have hnone : ∀ domain ∈ safeDomains, '@' ∉ domain.toList := by decide
  refine ⟨⟨user, domain, huser, hdomain, rfl⟩, ?_⟩
  rw [List.count_append, List.count_eq_zero.mpr huser.sign_notMem, List.count_cons_self,
    List.count_eq_zero.mpr (hnone domain hdomain)]

end Text

theorem Number.toList_toString (n : Nat) : (toString n).toList = figures n := by
  change (Nat.repr n).toList = figures n
  rw [Nat.repr, String.toList_ofList, figures]

namespace Sampler

open Text

variable {s s' : Stream} {text : String}

theorem isWord_of_word (h : word.run s = .ok (text, s')) : IsWord text.toList :=
  isWord_of_mem_words (mem_of_pick (by decide) h)

theorem isUserName_of_userName (h : userName.run s = .ok (text, s')) :
    IsUserName text.toList := by
  obtain ⟨first, s₁, hfirst, h⟩ := bind_eq_ok.mp h
  have hword := isWord_of_word hfirst
  obtain ⟨ending, s₂, -, h⟩ := bind_eq_ok.mp h
  split at h
  · obtain ⟨rfl, -⟩ := pure_eq_ok.mp h
    exact .word hword
  · obtain ⟨second, hsecond, rfl⟩ := bind_pure_eq_ok.mp h
    simpa using IsUserName.dotted hword (isWord_of_word hsecond)
  · obtain ⟨index, hindex, rfl⟩ := bind_pure_eq_ok.mp h
    have hlt := below32_lt (by decide) hindex
    rw [String.toList_append, Number.toList_toString]
    exact .numbered hword (Nat.succ_pos index) (by omega)

theorem isMailAddress_of_email (h : email.run s = .ok (text, s')) : IsMailAddress text.toList := by
  obtain ⟨user, s₁, huser, h⟩ := bind_eq_ok.mp h
  obtain ⟨domain, hdomain, rfl⟩ := bind_pure_eq_ok.mp h
  simpa using isMailAddress_of_user (isUserName_of_userName huser)
    (mem_of_pick (by decide) hdomain)

theorem isWebAddress_of_url (h : url.run s = .ok (text, s')) : IsWebAddress text.toList := by
  obtain ⟨heads, s₁, -, h⟩ := bind_eq_ok.mp h
  obtain ⟨host, s₂, hhost, h⟩ := bind_eq_ok.mp h
  obtain ⟨suffix, s₃, hsuffix, h⟩ := bind_eq_ok.mp h
  obtain ⟨first, s₄, hfirst, h⟩ := bind_eq_ok.mp h
  obtain ⟨second, hsecond, rfl⟩ := bind_pure_eq_ok.mp h
  refine ⟨if heads then "http" else "https", host.toList, suffix, first.toList, second.toList, ?_,
    mem_of_pick (by decide) hsuffix, isWord_of_word hhost, isWord_of_word hfirst,
    isWord_of_word hsecond, ?_⟩
  · cases heads <;> decide
  · simp

end Sampler

/-! ## Internet addresses -/

namespace Text

/-- The octet that is written so: decimal figures of a number below 256, without a zero in front. -/
def octet? (cs : List Char) : Option Nat :=
  let n := Number.ofFigures cs
  if n < 256 ∧ cs = Number.figures n then some n else none

/-- The number of 32 bits that is written as four octets with points between them, the highest
one first. -/
def address? (cs : List Char) : Option Nat :=
  match (cs.splitOn '.').map octet? with
  | [some a, some b, some c, some d] => some (((a * 256 + b) * 256 + c) * 256 + d)
  | _ => none

/-- Four octets with points between them. -/
def dotted (a b c d : Nat) : List Char :=
  Number.figures a ++ '.' :: Number.figures b ++ '.' :: Number.figures c ++
    '.' :: Number.figures d

theorem octet?_figures {n : Nat} (hn : n < 256) : octet? (Number.figures n) = some n := by
  unfold octet?
  dsimp only
  rw [Number.ofFigures_figures]
  exact if_pos ⟨hn, rfl⟩

/-- The text is four decimal octets with points between them; they make up the number, and as it
the text is read. -/
structure IsAddressOf (n : Nat) (cs : List Char) : Prop where
  parts : ∃ a b c d, (a ≤ 255 ∧ b ≤ 255 ∧ c ≤ 255 ∧ d ≤ 255) ∧ cs = dotted a b c d ∧
    n = ((a * 256 + b) * 256 + c) * 256 + d
  read_back : address? cs = some n

theorem dotted_eq_intercalate (a b c d : Nat) :
    dotted a b c d = ['.'].intercalate ([a, b, c, d].map Number.figures) := by
  simp [dotted, List.intercalate_cons_cons]

/-- Points stand between octets only, so that the text falls into four of them. -/
theorem splitOn_dotted (a b c d : Nat) :
    (dotted a b c d).splitOn '.' = [a, b, c, d].map Number.figures := by
  rw [dotted_eq_intercalate]
  refine List.splitOn_intercalate '.' ?_ (by simp)
  intro cs hcs hpoint
  obtain ⟨n, -, rfl⟩ := List.mem_map.mp hcs
  exact absurd (Number.isDigit_of_mem_figures hpoint) (by decide)

theorem address?_dotted {a b c d : Nat} (ha : a < 256) (hb : b < 256) (hc : c < 256)
    (hd : d < 256) :
    address? (dotted a b c d) = some (((a * 256 + b) * 256 + c) * 256 + d) := by
  unfold address?
  rw [splitOn_dotted]
  simp only [List.map_cons, List.map_nil, octet?_figures ha, octet?_figures hb, octet?_figures hc,
    octet?_figures hd]

end Text

namespace Sampler

variable {s s' : Stream} {text : String}

theorem toList_addressText (n : Nat) : (addressText n).toList =
    Text.dotted (n / 2 ^ 24 % 256) (n / 2 ^ 16 % 256) (n / 2 ^ 8 % 256) (n % 256) := by
  have hpoint : ".".toList = ['.'] := rfl
  have htext : String.toList ∘ (toString : Nat → String) = Number.figures :=
    funext Number.toList_toString
  rw [addressText, String.toList_intercalate, hpoint, List.map_map, htext,
    Text.dotted_eq_intercalate, octets]

theorem isAddressOf_addressText {n : Nat} (hn : n < 2 ^ 32) :
    Text.IsAddressOf n (addressText n).toList := by
  have hbound (m : Nat) : m % 256 < 256 := Nat.mod_lt m (by decide)
  have hvalue : ((n / 2 ^ 24 % 256 * 256 + n / 2 ^ 16 % 256) * 256 + n / 2 ^ 8 % 256) * 256 +
      n % 256 = n := by
    omega
  rw [toList_addressText]
  constructor
  · exact ⟨_, _, _, _, ⟨Nat.le_of_lt_succ (hbound _), Nat.le_of_lt_succ (hbound _),
      Nat.le_of_lt_succ (hbound _), Nat.le_of_lt_succ (hbound _)⟩, rfl, hvalue.symm⟩
  · rw [Text.address?_dotted (hbound _) (hbound _) (hbound _) (hbound _), hvalue]

theorem isAddressOf_of_address (h : address.run s = .ok (text, s')) :
    ∃ n < 2 ^ 32, (below (2 ^ 32)).run s = .ok (n, s') ∧
      Text.IsAddressOf n text.toList := by
  obtain ⟨n, hn, rfl⟩ := bind_pure_eq_ok.mp h
  have hlt := below_lt (by decide) hn
  exact ⟨n, hlt, hn, isAddressOf_addressText hlt⟩

end Sampler

/-! ## Dates -/

namespace Calendar

/-- The last date that is drawn. -/
def lastDrawn : Date := ⟨2038, 1, 19, by decide⟩

/-- There is a date some days later, unless the calendar ends before. -/
theorem Date.exists_later (d : Date) {days : Nat} (h : d.dayNumber + days ≤ last.dayNumber) :
    ∃ d', d.addDays? days = some d' ∧ d'.dayNumber = d.dayNumber + days := by
  induction days with
  | zero => exact ⟨d, ofDayNumber?_eq_some.mpr (Int.add_zero _).symm, (Int.add_zero _).symm⟩
  | succ days ih =>
    obtain ⟨before, -, hbefore⟩ := ih (by omega)
    have hne : before ≠ last := by
      rintro rfl
      omega
    obtain ⟨d', hnext⟩ := exists_next hne
    have hd' : d'.dayNumber = d.dayNumber + (days + 1 : Nat) := by
      rw [hnext.dayNumber_eq, hbefore]
      omega
    exact ⟨d', ofDayNumber?_eq_some.mpr hd', hd'⟩

theorem Date.year_le_of_dayNumber_le {d d' : Date} (h : d.dayNumber ≤ d'.dayNumber) :
    d.year ≤ d'.year := by
  by_contra hlater
  have hyears := daysBeforeYear_mono (Int.not_le.mp hlater : d'.year + 1 ≤ d.year)
  have hordinal := d'.ordinal0_lt_yearLength
  rw [daysBeforeYear_succ] at hyears
  unfold dayNumber at h
  omega

/-- A date is written in ten characters: four figures, two and two, with hyphens between them. -/
structure IsDateText (cs : List Char) : Prop where
  length_eq : cs.length = 10
  parts : ∃ year month day, cs = year ++ '-' :: month ++ '-' :: day ∧ year.length = 4 ∧
    month.length = 2 ∧ day.length = 2 ∧ ∀ c ∈ year ++ month ++ day, c.isDigit = true

theorem isDateText_dateText {d : Date} (hlow : 0 ≤ d.year) (hhigh : d.year ≤ 9999) :
    IsDateText (Iso.dateText d) := by
  have hyear : DateLetters.yearText d.year = Number.lastFigures 4 d.year.natAbs := by
    rw [DateLetters.yearText, if_neg (Int.not_lt.mpr hlow), if_neg (Int.not_lt.mpr hhigh),
      if_pos (by omega), List.nil_append]
  have hlength := Number.length_lastFigures
  constructor
  · rw [Iso.dateText, hyear]
    simp [hlength]
  · refine ⟨_, _, _, by rw [Iso.dateText, hyear], hlength 4 _, hlength 2 _, hlength 2 _, ?_⟩
    intro c hc
    rw [List.mem_append, List.mem_append] at hc
    rcases hc with (hc | hc) | hc
    · exact Number.isDigit_of_mem_lastFigures hc
    · exact Number.isDigit_of_mem_lastFigures hc
    · exact Number.isDigit_of_mem_lastFigures hc

end Calendar

open Calendar

/-- A drawn date is that of a second from the start of 1970 on, within 31 bits. -/
theorem Sampler.date_eq_ok {s s' : Stream} {d : Date} (h : date.run s = .ok (d, s')) :
    ∃ second < 2 ^ 31, (below (2 ^ 31)).run s = .ok (second, s') ∧
      d.dayNumber = epoch.dayNumber + (second / secondsPerDay : Nat) := by
  obtain ⟨second, hsecond, rfl⟩ := bind_pure_eq_ok.mp h
  have hlt := below_lt (by decide) hsecond
  -- 31 bits of seconds end on the day 24855, so that the calendar has the date
  have hend : epoch.dayNumber + 24855 ≤ Date.last.dayNumber := by decide
  have hdays : second / secondsPerDay ≤ 24855 := by
    unfold secondsPerDay
    omega
  obtain ⟨d, hd, hnumber⟩ := @Date.exists_later epoch (second / secondsPerDay) (by omega)
  rw [hd, Option.getD_some]
  exact ⟨second, hlt, hsecond, hnumber⟩

/-- The value is the text of a date from 1970 to 19 January 2038, and it reads as midnight of that
date for every rule, whatever dates are read against. -/
structure Example.IsDate (d : Date) (value : Example) : Prop where
  not_before : epoch.dayNumber ≤ d.dayNumber
  not_after : d.dayNumber ≤ lastDrawn.dayNumber
  text : ∃ text, value = .text text ∧ IsDateText text.toList ∧
    ∀ i : Input, (i.moment text).run = .ok (.ok (.ofDate d))

theorem Example.isDate_of_date {s s' : Stream} {d : Date} (h : Sampler.date.run s = .ok (d, s')) :
    IsDate d (.text (String.ofList (Iso.dateText d))) := by
  obtain ⟨second, hlt, -, hnumber⟩ := Sampler.date_eq_ok h
  have hend : lastDrawn.dayNumber = epoch.dayNumber + 24855 := by decide
  unfold secondsPerDay at hnumber
  have hnot_before : epoch.dayNumber ≤ d.dayNumber := by omega
  have hnot_after : d.dayNumber ≤ lastDrawn.dayNumber := by omega
  have hlow : 1970 ≤ d.year := Date.year_le_of_dayNumber_le hnot_before
  have hhigh : d.year ≤ 2038 := Date.year_le_of_dayNumber_le hnot_after
  refine ⟨hnot_before, hnot_after, _, rfl, ?_, ?_⟩
  · rw [String.toList_ofList]
    exact isDateText_dateText (by omega) (by omega)
  · intro i
    have hread := @Input.moment_text i .dateOnly (.ofDate d) [] [] nofun nofun
    rwa [List.append_nil] at hread

theorem Sampler.dateText?_eq_error {pattern : String} {s : Stream} {cause : Interruption}
    (h : (Sampler.dateText? pattern).run s = .error cause) :
    cause = .exhausted ∧ (Sampler.Draw.wide (2 ^ 31)).Refuses s := by
  rw [Sampler.dateText?, Sampler.bind_pure_eq_error, Sampler.date,
    Sampler.bind_pure_eq_error] at h
  exact Sampler.below_eq_error_iff.mp h

/-- The rule `date` shows the date that it draws. -/
theorem apply_date (templates : Templates) (setting : Setting) (field : String)
    (parameters : List String) (e : Entry) (s : Stream) :
    Kind.date.BringsAbout templates setting field parameters e s
        ((Sampler.Draw.wide (2 ^ 31)).Refuses s) fun a s' =>
      ∃ d second, (Sampler.below (2 ^ 31)).run s = .ok (second, s') ∧
        d.dayNumber = epoch.dayNumber + (second / secondsPerDay : Nat) ∧
        a.entry.value.IsDate d := by
  refine Kind.bringsAbout_of_draw rfl (fun _ h => Sampler.dateText?_eq_error h) ?_
  intro text s' hdraw
  obtain ⟨d, hdate, rfl⟩ := Sampler.bind_pure_eq_ok.mp hdraw
  obtain ⟨second, -, hsecond, hnumber⟩ := Sampler.date_eq_ok hdate
  have hpattern := Iso.Layout.onDate?_pattern d
  refine ⟨d, second, hsecond, hnumber, ?_⟩
  have hvalue : Example.text (((Pattern.onDate? datePattern.toList d).map String.ofList).getD "") =
      .text (String.ofList (Iso.dateText d)) := by
    rw [show datePattern = Iso.Layout.dateOnly.pattern from rfl, hpattern]
    rfl
  exact hvalue ▸ Example.isDate_of_date hdate

/-! ## All of them -/

/-- From every place of every stream, a mail address, a web address, an Internet address and a date
have their form, and the last two read as what was drawn, unless they come to a draw that refuses
every word it looks at. -/
theorem samples_have_their_form :
    Sampler.email.Yields (fun _ text _ => Text.IsMailAddress text.toList) ∧
      Sampler.url.Yields (fun _ text _ => Text.IsWebAddress text.toList) ∧
      Sampler.address.Yields (fun s text s' => ∃ n < 2 ^ 32,
        (Sampler.below (2 ^ 32)).run s = .ok (n, s') ∧ Text.IsAddressOf n text.toList) ∧
      ∀ templates setting field parameters e s,
        Kind.date.BringsAbout templates setting field parameters e s
            ((Sampler.Draw.wide (2 ^ 31)).Refuses s) fun a s' =>
          ∃ d second, (Sampler.below (2 ^ 31)).run s = .ok (second, s') ∧
            d.dayNumber = epoch.dayNumber + (second / secondsPerDay : Nat) ∧
            a.entry.value.IsDate d :=
  ⟨Sampler.steady_email.yields fun _ _ _ => Sampler.isMailAddress_of_email,
    Sampler.steady_url.yields fun _ _ _ => Sampler.isWebAddress_of_url,
    Sampler.steady_address.yields fun _ _ _ => Sampler.isAddressOf_of_address, apply_date⟩

end FieldGuide
