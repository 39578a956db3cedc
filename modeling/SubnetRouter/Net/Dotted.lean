import SubnetRouter.Net.Ip4
import SubnetRouter.Net.Ip6Cidr

namespace SubnetRouter

open Lib

/-!
# Dotted addresses

`IPSTR` with `IP2STR` writes the four octets of an address in decimal.  lwIP's `ip4addr_aton` is a
parameter wherever it is called; `StandardAton` is what it is taken for.

* `dotted` — the text of an address; `length_dotted_le`, `isDigit_of_mem_dotted`.
* `StandardAton` — a parser that reads these texts, and no other kind of text.
* `standardAton_readDotted` — there is one.
-/

/-- `IP2STR`. -/
def octets (ip : Ip4) : List Nat :=
  [ip.toNat / 2 ^ 24, ip.toNat / 2 ^ 16 % 256, ip.toNat / 2 ^ 8 % 256, ip.toNat % 256]

/-- The text of an address. -/
def dotted (ip : Ip4) : List Char := ['.'].intercalate ((octets ip).map (Nat.toDigits 10))

/-- The characters of a dotted address. -/
def isDotted (c : Char) : Bool := c == '.' || c.isDigit

/-- `ip4addr_aton` accepts the standard forms: the text of every address, and only four numbers
    of at most three digits each with dots between them. -/
structure StandardAton (aton : List Char → Option Ip4) : Prop where
  reads : ∀ ip, aton (dotted ip) = some ip
  length_le : ∀ {text ip}, aton text = some ip → text.length ≤ 15
  isDotted : ∀ {text ip}, aton text = some ip → ∀ c ∈ text, isDotted c = true

variable {ip : Ip4} {c : Char}

theorem octets_lt (ip : Ip4) : ∀ n ∈ octets ip, n < 256 := by
  have hip := ip.isLt
  intro n hn
  simp only [octets, List.mem_cons, List.not_mem_nil, or_false] at hn
  rcases hn with rfl | rfl | rfl | rfl <;> omega

/-- The octets make up the address. -/
theorem ofNat_octets (ip : Ip4) :
    BitVec.ofNat 32 ((octets ip).foldl (fun v n => v * 256 + n) 0) = ip := by
  have hip := ip.isLt
  have hvalue : (octets ip).foldl (fun v n => v * 256 + n) 0 = ip.toNat := by
    simp only [octets, List.foldl_cons, List.foldl_nil]
    omega
  rw [hvalue, BitVec.ofNat_toNat, BitVec.setWidth_eq]

/-- Four octets and three dots. -/
theorem length_dotted_le (ip : Ip4) : (dotted ip).length ≤ 15 := by
  have hlen : ∀ n, n < 256 → (Nat.toDigits 10 n).length ≤ 3 := by
    intro n hn
    exact (Nat.length_toDigits_le_iff (by decide) (by decide)).mpr (by omega)
  obtain ⟨a, b, c, d, hoctets⟩ : ∃ a b c d, octets ip = [a, b, c, d] := ⟨_, _, _, _, rfl⟩
  have hlt := octets_lt ip
  rw [hoctets] at hlt
  have ha := hlen a (hlt a (by simp))
  have hb := hlen b (hlt b (by simp))
  have hc := hlen c (hlt c (by simp))
  have hd := hlen d (hlt d (by simp))
  rw [dotted, hoctets]
  simp only [List.map_cons, List.map_nil, List.intercalate_cons_cons, List.intercalate_singleton,
    List.length_append, List.length_singleton]
  omega

theorem isDotted_of_mem_dotted (h : c ∈ dotted ip) : isDotted c = true := by
  by_contra hno
  simp only [isDotted, Bool.or_eq_true, beq_iff_eq, not_or] at hno
  refine Ip6Cidr.not_mem_intercalate hno.1 ?_ h
  intro s hs hmem
  obtain ⟨n, -, rfl⟩ := List.mem_map.mp hs
  exact hno.2 (Nat.isDigit_of_mem_toDigits (by decide) (by decide) hmem)

/-! ### A parser of dotted addresses -/

/-- The address of four numbers between dots, if this is how its text is written. -/
def readDotted (text : List Char) : Option Ip4 :=
  ((text.splitOn '.').mapM (readDigits 10)).bind fun numbers =>
    let ip := BitVec.ofNat 32 (numbers.foldl (fun v n => v * 256 + n) 0)
    if dotted ip = text then some ip else none

theorem dotted_of_readDotted {text : List Char} (h : readDotted text = some ip) :
    dotted ip = text := by
  obtain ⟨numbers, -, hip⟩ := Option.bind_eq_some_iff.mp h
  dsimp only at hip
  split_ifs at hip with heq
  rw [← Option.some.inj hip, heq]

theorem readDotted_dotted (ip : Ip4) : readDotted (dotted ip) = some ip := by
  have hsplit : (dotted ip).splitOn '.' = (octets ip).map (Nat.toDigits 10) := by
    apply List.splitOn_intercalate
    · intro s hs
      obtain ⟨n, -, rfl⟩ := List.mem_map.mp hs
      exact not_mem_toDigits (by decide) (by decide) (by decide) n
    · exact List.cons_ne_nil _ _
  have hread : ∀ ns : List Nat, (ns.map (Nat.toDigits 10)).mapM (readDigits 10) = some ns := by
    intro ns
    induction ns with
    | nil => rfl
    | cons n ns ih =>
      rw [List.map_cons, List.mapM_cons, readDigits_toDigits (by decide) (by decide), ih]
      rfl
  rw [readDotted, hsplit, hread, Option.bind_some, ofNat_octets]
  exact if_pos rfl

/-- It accepts exactly these texts. -/
theorem standardAton_readDotted : StandardAton readDotted where
  reads := readDotted_dotted
  length_le h := dotted_of_readDotted h ▸ length_dotted_le _
  isDotted h _ hc := isDotted_of_mem_dotted (dotted_of_readDotted h ▸ hc)

end SubnetRouter
