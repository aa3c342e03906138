import ImageFiling.Proofs.Text.Case
import ImageFiling.Proofs.Url.Address
import ImageFiling.Proofs.Url.Site
import ImageFiling.Url.Host
import Mathlib.Tactic.MkIffOfInductiveProp

/-!
# Authorities as they are written

An authority is a host with a user before it and a port after it, each of which may be missing. It is
accepted in a URL (`Authority.isAuthority`), and its host is shown whatever the user is
(`Authority.host_eq`).
-/

namespace ImageFiling.Url

def isNameChar (c : Char) : Bool := c.isAlphanum || c == '-' || c == '.'

/-- A printable ASCII character that is no delimiter and no bracket. -/
def isUserChar (c : Char) : Bool :=
  0x20 ≤ c.toNat && c.toNat < 0x7F && !endsAuthority c && c != '[' && c != ']'

/-- A name, or an address in brackets. -/
@[mk_iff]
inductive IsHost : Text → Prop where
  | name {t : Text} (filled : t ≠ []) (plain : ∀ c ∈ t, isNameChar c = true) : IsHost t
  | address {t : Text} (written : Address.IsWritten t) : IsHost ('[' :: t ++ [']'])

structure IsPort (t : Text) : Prop where
  isNumeral : Text.isNumeral t = true
  short : t.length ≤ Text.digitLimit
  small : Text.value t ≤ 65535

/-- The user, the host and the port of an authority as they are written. -/
structure Authority where
  user : Option Text
  host : Text
  port : Option Text
  userChars : ∀ u ∈ user, ∀ c ∈ u, isUserChar c = true
  isHost : IsHost host
  isPort : ∀ p ∈ port, IsPort p

namespace Authority

def portPart (a : Authority) : Text := a.port.elim [] (':' :: ·)

def userPart (a : Authority) : Text := a.user.elim [] (· ++ ['@'])

def text (a : Authority) : Text := a.userPart ++ (a.host ++ a.portPart)

/-- The port as it is shown after the host, without zeros before it. The usual port of the scheme is
not shown, and port 0 is not either. -/
def shownPort (a : Authority) (scheme : Text) : Text :=
  match a.port with
  | none => []
  | some p =>
    if Text.value p = 0 ∨ (scheme = "http" ∧ Text.value p = 80) ∨
        (scheme = "https" ∧ Text.value p = 443) then []
    else ':' :: p.dropWhile (· == '0')

/-- The host as it is shown for a scheme in lower case. -/
def shownHost (a : Authority) (scheme : Text) : Text := a.host.map Char.toLower ++ a.shownPort scheme

end Authority

/-! ### Characters -/

theorem isAlphanum_of_isHexDigit {c : Char} (hex : Address.isHexDigit c = true) :
    c.isAlphanum = true := by
  have letter (alpha : c.isAlpha = true) : c.isAlphanum = true :=
    (Bool.or_eq_true _ _).mpr (.inl alpha)
  simp only [Address.isHexDigit, Bool.or_eq_true, Bool.and_eq_true, decide_eq_true_eq] at hex
  rcases hex with (digit | lower) | upper
  · exact (Bool.or_eq_true _ _).mpr (.inr digit)
  · have least : decide (c.val ≥ 'a'.val) = true := decide_eq_true lower.1
    have greatest : decide (c.val ≤ 'z'.val) = true :=
      decide_eq_true (UInt32.le_trans lower.2 (by decide))
    exact letter ((Bool.or_eq_true _ _).mpr (.inr ((Bool.and_eq_true _ _).mpr ⟨least, greatest⟩)))
  · have bounds : c.val ≥ 'A'.val ∧ c.val ≤ 'Z'.val :=
      ⟨upper.1, UInt32.le_trans upper.2 (by decide)⟩
    exact letter ((Bool.or_eq_true _ _).mpr (.inl (decide_eq_true bounds)))

theorem isHostChar_of_isAlphanum {c : Char} (alphanum : c.isAlphanum = true) :
    isHostChar c = true := by
  simp only [isHostChar, alphanum, Bool.true_or]

theorem isHostChar_of_isNameChar {c : Char} (inName : isNameChar c = true) :
    isHostChar c = true ∧ c ≠ ':' := by
  simp only [isNameChar, Bool.or_eq_true, beq_iff_eq] at inName
  rcases inName with (alphanum | rfl) | rfl
  · refine ⟨isHostChar_of_isAlphanum alphanum, ?_⟩
    rintro rfl
    exact absurd alphanum (by decide)
  · decide
  · decide

theorem isHostChar_of_isWritten {t : Text} (written : Address.IsWritten t) :
    ∀ c ∈ t, isHostChar c = true := by
  intro c member
  rcases written.of_mem member with hex | rfl | rfl
  · exact isHostChar_of_isAlphanum (isAlphanum_of_isHexDigit hex)
  · rfl
  · rfl

theorem isHostChar_of_isPort {p : Text} (isPort : IsPort p) : ∀ c ∈ p, isHostChar c = true := by
  intro c member
  have digit := Text.isDigit_of_isNumeral isPort.isNumeral c member
  exact isHostChar_of_isAlphanum ((Bool.or_eq_true _ _).mpr (.inr digit))

theorem of_isUserChar {c : Char} (inUser : isUserChar c = true) :
    (0x20 ≤ c.toNat ∧ c.toNat < 0x7F) ∧ endsAuthority c = false ∧ c ≠ '[' ∧ c ≠ ']' := by
  simpa [isUserChar, and_assoc] using inUser

theorem isUserChar_of_isHostChar {c : Char} (plain : isHostChar c = true) : isUserChar c = true := by
  have bounds := toNat_of_isHostChar plain
  exact Text.forall_ascii (P := fun c => isHostChar c = true → isUserChar c = true) (by decide)
    (by omega) plain

theorem IsHost.chars {host : Text} (isHost : IsHost host) :
    ∀ c ∈ host, isHostChar c = true ∨ c = '[' ∨ c = ']' := by
  cases isHost with
  | name _ plain => exact fun c member => .inl (isHostChar_of_isNameChar (plain c member)).1
  | address written =>
    refine List.forall_mem_append.mpr ⟨List.forall_mem_cons.mpr ⟨.inr (.inl rfl), ?_⟩,
      List.forall_mem_singleton.mpr (.inr (.inr rfl))⟩
    exact fun c member => .inl (isHostChar_of_isWritten written c member)

/-! ### Hosts -/

theorem cut_address {t : Text} (written : Address.IsWritten t) (rest : Text) :
    Text.cut '[' ('[' :: t ++ [']'] ++ rest) = ([], some (t ++ ']' :: rest)) ∧
      Text.cut ']' (t ++ ']' :: rest) = (t, some rest) := by
  have clean : ']' ∉ t := not_mem_host (isHostChar_of_isWritten written) rfl
  have shape : '[' :: t ++ [']'] ++ rest = '[' :: (t ++ ']' :: rest) := by simp
  rw [shape]
  exact ⟨by simp, by simp [clean]⟩

theorem checkBracketed_written {t : Text} (written : Address.IsWritten t) :
    checkBracketed t = .ok () := by
  have v6 := Address.isV6_of_isWritten written
  have v4 := Address.isV4_eq_false (Address.colon_mem_of_isV6 v6)
  have known : t.head? ≠ some 'v' := by
    intro first
    exact absurd (written.of_mem (List.mem_of_mem_head? first)) (by decide)
  rw [checkBracketed, if_neg known, v4, v6]
  rfl

theorem hostname_eq {url : Url} {name port : Text} (plain : ∀ c ∈ name, isHostChar c = true)
    (cut : url.hostAndPort = (name, port)) : url.hostname = name.map Char.toLower := by
  have zone : '%' ∉ name := not_mem_host plain rfl
  have passes := Text.forall_ne_of_not_mem zone
  have ascii : ∀ c ∈ name, c.toNat < 128 := fun c member =>
    Nat.lt_trans (toNat_of_isHostChar (plain c member)).2 (by decide)
  rw [hostname, cut, List.takeWhile_eq_self_iff.mpr passes, List.dropWhile_eq_nil_iff.mpr passes,
    Text.lower_ascii ascii, List.append_nil]

theorem colon_mem_map_toLower {name : Text} (plain : ∀ c ∈ name, isHostChar c = true) :
    ':' ∈ name.map Char.toLower ↔ ':' ∈ name := by
  constructor
  · intro member
    obtain ⟨c, inside, lowered⟩ := List.mem_map.mp member
    have ascii : c.toNat < 128 := Nat.lt_trans (toNat_of_isHostChar (plain c inside)).2 (by decide)
    have unchanged := Text.toLower_ascii c.toNat ascii
    rw [Char.ofNat_toNat, lowered] at unchanged
    rcases unchanged with same | letter
    · rwa [same]
    · exact absurd letter (by decide)
  · exact fun member => List.mem_map.mpr ⟨':', member, rfl⟩

theorem usualPort?_eq_some {scheme : Text} {n : Nat} : usualPort? scheme = some n ↔
    (scheme = "http" ∧ n = 80) ∨ (scheme = "https" ∧ n = 443) := by
  unfold usualPort?
  split
  · next http =>
    subst http
    simp [eq_comm]
  · split
    · next https =>
      subst https
      simp [eq_comm]
    · next noHttp noHttps => simp only [noHttp, noHttps, false_and, or_self, reduceCtorEq]

/-! ### Authorities -/

namespace Authority

variable (a : Authority)

theorem portPart_chars : ∀ c ∈ a.portPart, isHostChar c = true := by
  unfold portPart
  cases port : a.port with
  | none => exact List.forall_mem_nil _
  | some p => exact List.forall_mem_cons.mpr ⟨rfl, isHostChar_of_isPort (a.isPort p port)⟩

theorem userPart_chars : ∀ c ∈ a.userPart, isUserChar c = true := by
  unfold userPart
  cases user : a.user with
  | none => exact List.forall_mem_nil _
  | some u =>
    exact List.forall_mem_append.mpr ⟨a.userChars u user, List.forall_mem_singleton.mpr rfl⟩

theorem hostPart_chars : ∀ c ∈ a.host ++ a.portPart, isHostChar c = true ∨ c = '[' ∨ c = ']' :=
  List.forall_mem_append.mpr ⟨a.isHost.chars, fun c member => .inl (a.portPart_chars c member)⟩

theorem text_chars : ∀ c ∈ a.text, isUserChar c = true ∨ c = '[' ∨ c = ']' :=
  List.forall_mem_append.mpr ⟨fun c member => .inl (a.userPart_chars c member), fun c member =>
    (a.hostPart_chars c member).imp_left isUserChar_of_isHostChar⟩

/-- What stands before the last `@` does not count. -/
theorem afterLast_text : a.text.afterLast '@' = a.host ++ a.portPart := by
  have clean : '@' ∉ a.host ++ a.portPart := fun member =>
    absurd (a.hostPart_chars '@' member) (by decide)
  rw [text, userPart]
  cases a.user with
  | none => exact Text.afterLast_of_not_mem clean
  | some u =>
    rw [Option.elim_some, List.append_assoc, List.singleton_append]
    exact Text.afterLast_append_cons clean u

theorem checkBrackets_text : checkBrackets a.text = .ok () := by
  rcases (isHost_iff _).mp a.isHost with ⟨-, plain⟩ | ⟨t, written, host⟩
  · have host : ∀ c ∈ a.host, isHostChar c = true :=
      fun c member => (isHostChar_of_isNameChar (plain c member)).1
    have inside : ∀ c ∈ a.text, isUserChar c = true :=
      List.forall_mem_append.mpr ⟨a.userPart_chars, fun c member => isUserChar_of_isHostChar
        (List.forall_mem_append.mpr ⟨host, a.portPart_chars⟩ c member)⟩
    exact checkBrackets_of_not_mem (mt (inside '[') (by decide)) (mt (inside ']') (by decide))
  · have opening : a.text.contains '[' = true := by
      rw [List.contains_iff_mem, text, host]
      simp
    have closing : a.text.contains ']' = true := by
      rw [List.contains_iff_mem, text, host]
      simp
    have port : (!a.portPart.isEmpty && a.portPart.head? != some ':') = false := by
      unfold portPart
      cases a.port <;> rfl
    obtain ⟨front, inner⟩ := cut_address written a.portPart
    rw [← host, ← a.afterLast_text] at front
    rw [checkBrackets, opening, closing]
    simp only [front, inner, Option.getD_some, port]
    exact checkBracketed_written written

/-- Every authority that is written so is accepted. -/
theorem isAuthority : IsAuthority a.text := by
  refine ⟨?_, a.checkBrackets_text, checkDelimiters_ascii ?_⟩
  · intro c member
    rcases a.text_chars c member with inUser | rfl | rfl
    · obtain ⟨bounds, stays, -⟩ := of_isUserChar inUser
      exact ⟨stays, isSkipped_eq_false bounds.1⟩
    · decide
    · decide
  · intro c member
    rcases a.text_chars c member with inUser | rfl | rfl
    · obtain ⟨bounds, -⟩ := of_isUserChar inUser
      omega
    · decide
    · decide

/-! ### Shown hosts -/

theorem cut_portPart : Text.cut ':' a.portPart = ([], a.port) := by
  unfold portPart
  cases a.port with
  | none => rfl
  | some p => simp

/-- The host and the port are cut out of the authority, and brackets stand around a host with colons
in it. -/
theorem exists_name : ∃ name : Text, (∀ c ∈ name, isHostChar c = true) ∧ name ≠ [] ∧
    a.host = (if name.contains ':' then '[' :: name ++ [']'] else name) ∧
    ∀ url : Url, url.authority = a.text → url.hostAndPort = (name, a.port.getD []) := by
  rcases (isHost_iff _).mp a.isHost with ⟨filled, plain⟩ | ⟨t, written, host⟩
  · have chars : ∀ c ∈ a.host, isHostChar c = true :=
      fun c member => (isHostChar_of_isNameChar (plain c member)).1
    have colon : ':' ∉ a.host := fun member => (isHostChar_of_isNameChar (plain _ member)).2 rfl
    have bracket : '[' ∉ a.host ++ a.portPart :=
      not_mem_host (List.forall_mem_append.mpr ⟨chars, a.portPart_chars⟩) rfl
    refine ⟨a.host, chars, filled, ?_, ?_⟩
    · rw [if_neg (by simpa using colon)]
    · intro url same
      rw [hostAndPort, same, a.afterLast_text]
      simp [bracket, Text.cut_append colon, a.cut_portPart]
  · have colon := Address.colon_mem_of_isV6 (Address.isV6_of_isWritten written)
    refine ⟨t, isHostChar_of_isWritten written, List.ne_nil_of_mem colon, ?_, ?_⟩
    · rw [host, if_pos (List.contains_iff_mem.mpr colon)]
    · intro url same
      obtain ⟨front, inner⟩ := cut_address written a.portPart
      rw [← host, ← a.afterLast_text, ← same] at front
      rw [hostAndPort]
      simp only [front, inner, Option.getD_some, a.cut_portPart]

theorem port?_eq {url : Url} {name : Text} (cut : url.hostAndPort = (name, a.port.getD [])) :
    url.port? = a.port.map Text.value := by
  rw [port?, cut]
  cases port : a.port with
  | none => rfl
  | some p =>
    have isPort := a.isPort p port
    exact if_pos ⟨isPort.isNumeral, isPort.short, isPort.small⟩

/-- The host of a URL is shown in lower case with its brackets, whatever the user is. -/
theorem host_eq {url : Url} (same : url.authority = a.text) : url.host = a.shownHost url.scheme := by
  obtain ⟨name, plain, -, host, cut⟩ := a.exists_name
  have cut := cut url same
  have lowered : (if url.hostname.contains ':' then '[' :: url.hostname ++ [']'] else url.hostname) =
      a.host.map Char.toLower := by
    have colon := colon_mem_map_toLower plain
    rw [hostname_eq plain cut, host]
    by_cases inside : ':' ∈ name
    · rw [if_pos (List.contains_iff_mem.mpr (colon.mpr inside)),
        if_pos (List.contains_iff_mem.mpr inside), List.map_append]
      rfl
    · rw [if_neg (mt (List.contains_iff_mem.mp ·) (mt colon.mp inside)),
        if_neg (mt (List.contains_iff_mem.mp ·) inside)]
  rw [Url.host, a.port?_eq cut, shownHost, shownPort, lowered]
  cases port : a.port with
  | none => exact (List.append_nil _).symm
  | some p =>
    have digits := Text.isDigit_of_isNumeral (a.isPort p port).isNumeral
    simp only [Option.map_some, usualPort?_eq_some]
    split
    · exact (List.append_nil _).symm
    · next shown =>
      have positive : ¬ Text.value p = 0 := fun zero => shown (.inl zero)
      rw [Text.dropWhile_zero digits, if_neg positive]

theorem isAbsolute {url : Url} (same : url.authority = a.text) (scheme : url.scheme ≠ []) :
    url.isAbsolute = true := by
  obtain ⟨name, plain, filled, -, cut⟩ := a.exists_name
  have hostname : url.hostname ≠ [] := by
    rw [hostname_eq plain (cut url same)]
    simpa using filled
  simp [Url.isAbsolute, scheme, hostname]

end Authority

end ImageFiling.Url
