import MapContext.Proofs.Result
import MapContext.Proofs.Url.DomainText
import Mathlib.Data.List.TakeWhile

/-!
# The front of an address

Scheme, authority and path stand before query and fragment. When an address is read, everything in
them that could be taken for the begin of another part is encoded or refused.
-/

namespace MapContext.Url

open Text

variable {cs rest : List Char} {scheme : String}

/-- The text of an address before its query. -/
def front (u : Url) : String :=
  u.scheme ++ ":"
    ++ (match u.authority with
      | some a => "//" ++ a.userInfo ++ a.place
      | none => if "//".toList.isPrefixOf u.path.toList then "/." else "")
    ++ u.path

theorem display_eq_front (u : Url) :
    u.display = u.front ++ (u.query.map ("?" ++ ·)).getD "" ++
      (u.fragment.map ("#" ++ ·)).getD "" := rfl

/-- An address whose parts do not run into each other when it is written. -/
structure Tidy (u : Url) : Prop where
  /-- The scheme has no blanks and controls. -/
  scheme : ∀ c ∈ u.scheme.toList, 0x20 < c.toNat
  /-- Nothing before the query begins a query or a fragment. -/
  front : Plain u.front.toList
  /-- The fragment has no blanks and controls. -/
  fragment : ∀ fragment, u.fragment = some fragment → ∀ c ∈ fragment.toList, 0x20 < c.toNat

/-! ### Authority -/

/-- The parts of an authority are plain. -/
structure Authority.Tidy (a : Authority) : Prop where
  /-- The user name is plain. -/
  username : Plain a.username.toList
  /-- The password is plain. -/
  password : Plain a.password.toList
  /-- The host is plain. -/
  host : Plain a.host.text.toList

theorem Authority.Tidy.plain_userInfo {a : Authority} (h : a.Tidy) : Plain a.userInfo.toList := by
  rw [Authority.userInfo]
  split
  · exact plain_nil
  · rw [String.toList_append, String.toList_append]
    refine (h.username.append ?_).append (plain_cons (by decide) plain_nil)
    split
    · exact plain_nil
    · rw [String.toList_append]
      exact (plain_cons (by decide) plain_nil).append h.password

theorem Authority.Tidy.plain_place {a : Authority} (h : a.Tidy) : Plain a.place.toList := by
  rw [Authority.place, String.toList_append]
  refine h.host.append ?_
  cases a.portNumber with
  | none => exact plain_nil
  | some n =>
      have hdigits : (toString n).toList = Nat.toDigits 10 n := Nat.toList_repr
      rw [Option.map_some, Option.getD_some, String.toList_append, hdigits]
      exact (plain_cons (by decide) plain_nil).append (plain_toDigits (by decide) (by decide) n)

theorem plain_readBrackets {host : Host} (h : readBrackets cs = .ok host) :
    Plain host.text.toList := by
  rw [readBrackets] at h
  split at h
  · split at h
    · obtain rfl := Except.ok.inj h
      rw [Host.text, String.toList_ofList]
      exact (plain_cons (by decide) (plain_ipv6Text _)).append (plain_cons (by decide) plain_nil)
    · cases h
  · cases h

theorem plain_readSpecialHost {host : Host} (h : readSpecialHost cs = .ok host) :
    Plain host.text.toList := by
  rw [readSpecialHost] at h
  split at h
  · exact plain_readBrackets h
  · split at h
    · cases h
    · cases h
    · next name _ hname =>
        split at h
        · split at h
          · obtain rfl := Except.ok.inj h
            rw [Host.text, String.toList_ofList]
            exact plain_ipv4Text _
          · cases h
        · obtain rfl := Except.ok.inj h
          rw [Host.text, String.toList_ofList]
          exact plain_domainToAscii hname

theorem plain_readPlainHost {host : Host} (h : readPlainHost cs = .ok host) :
    Plain host.text.toList := by
  rw [readPlainHost] at h
  split at h
  · exact plain_readBrackets h
  · split at h
    · cases h
    · next hallowed =>
        obtain rfl := Except.ok.inj h
        rw [Host.text, String.toList_ofList]
        refine plain_encode_isControl fun c hc => ?_
        rw [Bool.not_eq_true, List.any_eq_false] at hallowed
        have hc := hallowed c hc
        constructor
        · rintro rfl
          exact hc (by decide)
        · rintro rfl
          exact hc (by decide)

theorem plain_readUserInfo {special : Bool} {username password : String}
    (h : readUserInfo special cs = .ok (username, password, rest)) :
    Plain username.toList ∧ Plain password.toList := by
  have htext (cs : List Char) : Plain (String.ofList (encode inUserInfo cs)).toList := by
    rw [String.toList_ofList]
    exact plain_encode fun c _ => isPlain_of_not_inUserInfo
  rw [readUserInfo] at h
  dsimp only at h
  split at h
  · split at h
    · cases h
    · cases h
      exact ⟨htext _, htext _⟩
  · cases h
    exact ⟨plain_nil, plain_nil⟩

theorem exists_of_ite_bind {ε α β : Type} {c : Prop} [Decidable c] {x y : Except ε α}
    {f : α → Except ε β} {b : β} (h : (if c then x >>= f else y >>= f) = .ok b) :
    ∃ a, (if c then x else y) = .ok a ∧ f a = .ok b := by
  split at h
  · next hc =>
      rw [if_pos hc]
      exact bind_eq_ok_iff.mp h
  · next hc =>
      rw [if_neg hc]
      exact bind_eq_ok_iff.mp h

/-- An authority is read in order: user name and password, host, socket number. -/
theorem readAuthority_eq_ok {a : Authority} (h : readAuthority scheme cs = .ok (a, rest)) :
    ∃ after, readUserInfo (isSpecial scheme) cs = .ok (a.username, a.password, after) ∧
      ∃ name ending, cutHost (isSpecial scheme) false after = (name, ending) ∧
        (if isSpecial scheme then readSpecialHost name else readPlainHost name) = .ok a.host ∧
        (rest = ending ∨ ∃ more, ending = ':' :: more ∧
          readPortNumber scheme more = .ok (a.portNumber, rest)) := by
  obtain ⟨⟨username, password, after⟩, hinfo, h⟩ := bind_eq_ok_iff.mp h
  obtain ⟨name, ending, hcut⟩ : ∃ name ending,
      cutHost (isSpecial scheme) false after = (name, ending) := ⟨_, _, rfl⟩
  dsimp only at h
  simp only [hcut] at h
  split at h
  · cases h
  · have hread := exists_of_ite_bind h
    clear h
    obtain ⟨host, hhost, h⟩ := hread
    split at h
    · cases h
    · split at h
      · next more _ =>
          obtain ⟨number, hnumber, h⟩ := bind_eq_ok_iff.mp h
          cases h
          exact ⟨after, hinfo, name, _, hcut, hhost, .inr ⟨more, rfl, hnumber⟩⟩
      · cases h
        exact ⟨after, hinfo, name, _, hcut, hhost, .inl rfl⟩

theorem tidy_readAuthority {a : Authority} (h : readAuthority scheme cs = .ok (a, rest)) :
    a.Tidy := by
  obtain ⟨after, hinfo, name, ending, -, hhost, -⟩ := readAuthority_eq_ok h
  obtain ⟨husername, hpassword⟩ := plain_readUserInfo hinfo
  refine ⟨husername, hpassword, ?_⟩
  split at hhost
  · exact plain_readSpecialHost hhost
  · exact plain_readPlainHost hhost

/-! ### Addresses -/

/-- Plain text without blanks. -/
def Solid (cs : List Char) : Prop := ∀ c ∈ cs, isPlain c = true ∧ 0x20 < c.toNat

theorem schemePart_facts {c : Char}
    (h : (c.isAlphanum || c == '+' || c == '-' || c == '.') = true) :
    isPlain c = true ∧ isPlain c.toLower = true ∧ 0x20 < c.toLower.toNat := by
  have hascii : c.toNat < 128 := by
    simp only [Bool.or_eq_true, beq_iff_eq] at h
    rcases h with ((h | rfl) | rfl) | rfl
    · exact toNat_lt_of_isAlphanum h
    all_goals decide
  exact of_ascii (fun c => (c.isAlphanum || c == '+' || c == '-' || c == '.') = true →
    isPlain c = true ∧ isPlain c.toLower = true ∧ 0x20 < c.toLower.toNat) (by decide) hascii h

theorem solid_readScheme (h : readScheme? cs = some (scheme, rest)) : Solid scheme.toList := by
  rw [readScheme?] at h
  split at h
  · split at h
    · obtain ⟨rfl, -⟩ := Prod.mk.inj (Option.some.inj h)
      rw [String.toList_ofList]
      intro c hc
      obtain ⟨d, hd, rfl⟩ := List.mem_map.mp hc
      have hpart := List.mem_takeWhile_imp hd
      exact (schemePart_facts hpart).2
    · cases h
  · cases h

theorem blank_lt_of_mem_encode {c : Char} (h : c ∈ encode inFragment cs) : 0x20 < c.toNat := by
  rcases mem_encode h with ⟨-, hc⟩ | rfl | hform
  · simp only [inFragment, isControl, List.contains_eq_mem, Bool.or_eq_false_iff,
      decide_eq_false_iff_not, List.mem_cons, not_or] at hc
    obtain ⟨⟨hcontrol, -⟩, hblank, -⟩ := hc
    have hne : c.toNat ≠ 0x20 := fun hval => hblank (Char.toNat_inj.mp hval)
    omega
  · decide
  · exact blank_lt_of_isFormChar hform

/-- An address is tidy if its parts before the query are. -/
theorem tidy_withEnding {u : Url} (hscheme : Solid u.scheme.toList)
    (hauthority : ∀ a, u.authority = some a → a.Tidy) (hpath : Plain u.path.toList)
    (cs : List Char) : (withEnding u cs).Tidy := by
  have hfront : Plain u.front.toList := by
    rw [front, String.toList_append, String.toList_append, String.toList_append]
    have hcolon : Plain (u.scheme.toList ++ ":".toList) :=
      Plain.append (fun c hc => (hscheme c hc).1) (plain_cons (by decide) plain_nil)
    refine (hcolon.append ?_).append hpath
    split
    · next a ha =>
        rw [String.toList_append, String.toList_append]
        exact ((plain_cons (by decide) (plain_cons (by decide) plain_nil)).append
          (hauthority a ha).plain_userInfo).append (hauthority a ha).plain_place
    · split
      · exact plain_cons (by decide) (plain_cons (by decide) plain_nil)
      · exact plain_nil
  refine ⟨fun c hc => (hscheme c hc).2, hfront, fun fragment hfragment c hc => ?_⟩
  rw [withEnding] at hfragment
  dsimp only at hfragment
  split at hfragment
  · cases hfragment
  · obtain rfl := Option.some.inj hfragment
    rw [String.toList_ofList] at hc
    exact blank_lt_of_mem_encode hc

theorem tidy_withPath (hscheme : Solid scheme.toList) {authority : Option Authority}
    (hauthority : ∀ a, authority = some a → a.Tidy) (cs : List Char) :
    (withPath scheme authority cs).Tidy :=
  tidy_withEnding hscheme hauthority (plain_readPath scheme _) _

theorem plain_fileAuthority {host : Host} (h : Plain host.text.toList) (onDrive : Bool) :
    Authority.Tidy
      ⟨"", "", if onDrive || host = .name "localhost" then .name "" else host, none⟩ := by
  refine ⟨plain_nil, plain_nil, ?_⟩
  dsimp only
  split
  · exact plain_nil
  · exact h

theorem tidy_fileOn {host : Host} (h : Plain host.text.toList) (cs : List Char) :
    (fileOn host cs).Tidy := by
  have hall : "file".toList.all (fun c => isPlain c && decide (0x20 < c.toNat)) = true := by
    decide
  have hfile : Solid "file".toList := by
    intro c hc
    simpa using List.all_eq_true.mp hall c hc
  refine tidy_withEnding hfile (fun a ha => ?_) ?_ _
  · obtain rfl := Option.some.inj ha
    exact plain_fileAuthority h _
  · rw [String.toList_ofList]
    exact plain_pathOf "file" _

theorem tidy_readFile {u : Url} (h : readFile cs = .ok u) : u.Tidy := by
  have hown : Plain (Host.name "").text.toList := plain_nil
  unfold readFile at h
  split at h
  · split at h
    · dsimp only at h
      split at h
      · obtain rfl := Except.ok.inj h
        exact tidy_fileOn hown _
      · obtain ⟨host, hhost, h⟩ := bind_eq_ok_iff.mp h
        obtain rfl := Except.ok.inj h
        exact tidy_fileOn (plain_readSpecialHost hhost) _
    · obtain rfl := Except.ok.inj h
      exact tidy_fileOn hown _
  · obtain rfl := Except.ok.inj h
    exact tidy_fileOn hown _

theorem tidy_readAfterScheme {u : Url} (hscheme : Solid scheme.toList)
    (h : readAfterScheme scheme cs = .ok u) : u.Tidy := by
  have hnone : ∀ a : Authority, none = some a → a.Tidy := fun a ha => nomatch ha
  have hread {after : List Char} (h : (readAuthority scheme after >>= fun read =>
      pure (withPath scheme (some read.1) read.2)) = .ok u) : u.Tidy := by
    obtain ⟨⟨a, rest⟩, ha, h⟩ := bind_eq_ok_iff.mp h
    obtain rfl := Except.ok.inj h
    refine tidy_withPath hscheme (fun b hb => ?_) rest
    obtain rfl := Option.some.inj hb
    exact tidy_readAuthority ha
  unfold readAfterScheme at h
  split at h
  · exact tidy_readFile h
  · split at h
    · exact hread h
    · split at h
      · exact hread h
      · obtain rfl := Except.ok.inj h
        exact tidy_withPath hscheme hnone _
      · obtain rfl := Except.ok.inj h
        refine tidy_withEnding hscheme hnone ?_ _
        rw [String.toList_ofList]
        refine plain_encode_isControl fun c hc => ?_
        have hmark := List.mem_takeWhile_imp hc
        simp only [Bool.not_eq_true', Bool.or_eq_false_iff, beq_eq_false_iff_ne] at hmark
        exact hmark

/-- An address that was read is tidy. -/
theorem tidy_read {text : String} {u : Url} (h : read text = .ok u) : u.Tidy := by
  rw [read] at h
  split at h
  · next scheme rest hscheme => exact tidy_readAfterScheme (solid_readScheme hscheme) h
  · cases h

end MapContext.Url
