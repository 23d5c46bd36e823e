import Mathlib.Algebra.Group.Nat.Defs
import Reliastra.Source.Core.SsrfProtection

/-!
# IP addresses and the blocked networks

`ipaddress.ip_address`, `ip_network` and `in` as `app/core/ssrf_protection.py` uses
them, and its `_BLOCKED_NETWORKS`. An address is the number of its bits; how it is
written is the library's business.
-/

namespace Reliastra.Source.SsrfProtection

/-- `IPv4Address` and `IPv6Address`. -/
inductive IpAddress where
  | v4 (bits : Fin (2 ^ 32))
  | v6 (bits : Fin (2 ^ 128))
  deriving DecidableEq

inductive IpNetwork where
  | v4 (network prefixLength : Nat)
  | v6 (network prefixLength : Nat)
  deriving DecidableEq

/-- All ones, less those behind the prefix. -/
def netmask (width prefixLength : Nat) : Nat := 2 ^ width - 2 ^ (width - prefixLength)

/-- `address in network`: false where the versions differ. -/
def IpNetwork.Contains : IpNetwork → IpAddress → Prop
  | .v4 network prefixLength, .v4 bits => bits.val &&& netmask 32 prefixLength = network
  | .v6 network prefixLength, .v6 bits => bits.val &&& netmask 128 prefixLength = network
  | _, _ => False

instance (net : IpNetwork) (address : IpAddress) : Decidable (net.Contains address) :=
  match net, address with
  | .v4 _ _, .v4 _ => inferInstanceAs (Decidable (_ = _))
  | .v6 _ _, .v6 _ => inferInstanceAs (Decidable (_ = _))
  | .v4 _ _, .v6 _ => inferInstanceAs (Decidable False)
  | .v6 _ _, .v4 _ => inferInstanceAs (Decidable False)

/-- The number of a dotted quad. -/
def dotted (a b c d : Nat) : Nat := ((a * 256 + b) * 256 + c) * 256 + d

/-- The number of an IPv6 address with one leading group and zeros behind it. -/
def leadingGroup (group : Nat) : Nat := group * 2 ^ 112

/-- `_BLOCKED_NETWORKS`. -/
def blockedNetworks : List IpNetwork :=
  [.v4 (dotted 10 0 0 0) 8, .v4 (dotted 172 16 0 0) 12, .v4 (dotted 192 168 0 0) 16,
    .v4 (dotted 127 0 0 0) 8, .v4 (dotted 169 254 0 0) 16, .v6 1 128,
    .v6 (leadingGroup 0xfc00) 7, .v6 (leadingGroup 0xfe80) 10]

def InBlockedNetwork (address : IpAddress) : Prop := ∃ net ∈ blockedNetworks, net.Contains address

instance (address : IpAddress) : Decidable (InBlockedNetwork address) :=
  inferInstanceAs (Decidable (∃ net ∈ blockedNetworks, net.Contains address))

/-- The functions of `urllib.parse`, and `ip_address` on texts. -/
structure AddressLibrary where
  urlparse : String → Except String ParsedUrl
  urljoin : String → String → Except String String
  ipAddress : String → Except String IpAddress

/-- The library as the guard uses it. -/
def AddressLibrary.guard (lib : AddressLibrary) : UrlLibrary where
  urlparse := lib.urlparse
  urljoin := lib.urljoin
  inBlockedNetwork text := (lib.ipAddress text).map (fun address => decide (InBlockedNetwork address))

/-! ## Networks as ranges -/

theorem land_netmask {width prefixLength a : Nat} (inWidth : prefixLength ≤ width)
    (bound : a < 2 ^ width) :
    a &&& netmask width prefixLength =
      a / 2 ^ (width - prefixLength) * 2 ^ (width - prefixLength) := by
  have mask : netmask width prefixLength =
      (2 ^ prefixLength - 1) <<< (width - prefixLength) := by
    rw [netmask, Nat.shiftLeft_eq, Nat.sub_mul, ← Nat.pow_add, Nat.add_sub_cancel' inWidth,
      Nat.one_mul]
  rw [mask, ← Nat.shiftRight_eq_div_pow, ← Nat.shiftLeft_eq]
  apply Nat.eq_of_testBit_eq
  intro i
  rw [Nat.testBit_and, Nat.testBit_shiftLeft, Nat.testBit_shiftLeft, Nat.testBit_shiftRight,
    Nat.testBit_two_pow_sub_one]
  by_cases behind : width - prefixLength ≤ i
  · by_cases inside : i < width
    · have position : width - prefixLength + (i - (width - prefixLength)) = i := by omega
      have ones : i - (width - prefixLength) < prefixLength := by omega
      simp [behind, ones, position]
    · -- the address has no bits there
      have clear : a.testBit i = false :=
        Nat.testBit_lt_two_pow (bound.trans_le (Nat.pow_le_pow_right (by decide) (by omega)))
      have position : width - prefixLength + (i - (width - prefixLength)) = i := by omega
      simp [clear, position]
  · simp [behind]

/-- A network whose host bits are clear is a range. -/
theorem land_netmask_eq_iff {width prefixLength a network size : Nat} (inWidth : prefixLength ≤ width)
    (bound : a < 2 ^ width) (hosts : size = 2 ^ (width - prefixLength))
    (aligned : network % size = 0) :
    a &&& netmask width prefixLength = network ↔ network ≤ a ∧ a < network + size := by
  have positive : 0 < size := by
    rw [hosts]
    exact Nat.two_pow_pos _
  rw [land_netmask inWidth bound, ← hosts]
  have quotient := Nat.div_add_mod a size
  have remainder := Nat.mod_lt a positive
  have whole := Nat.div_add_mod network size
  rw [aligned, Nat.add_zero] at whole
  rw [Nat.mul_comm] at quotient
  constructor
  · intro same
    omega
  · intro ⟨low, high⟩
    have same : a / size = network / size := by
      apply Nat.le_antisymm
      · rw [← Nat.lt_succ_iff, Nat.div_lt_iff_lt_mul positive, Nat.succ_mul, Nat.mul_comm, whole]
        exact high
      · exact Nat.div_le_div_right low
    rw [same, Nat.mul_comm]
    exact whole

/-! ## When the guard accepts -/

section Guard
variable {lib : UrlLibrary} {resolve pin : Resolver} {url : String}

/-- The URL gets as far as its addresses, and none of them is in a blocked network. -/
structure Resolves (lib : UrlLibrary) (resolve : Resolver) (url : String) (parsed : ParsedUrl)
    (hostname : String) (addresses : List String) : Prop where
  parses : lib.urlparse url = .ok parsed
  scheme : Text.lower parsed.scheme ∈ allowedSchemes
  named : parsed.hostname.filter (· ≠ "") = some hostname
  literal : lib.inBlockedNetwork hostname ≠ .ok true
  answered : resolve hostname = .ok addresses
  present : addresses ≠ []
  unblocked : firstBlocked lib addresses = none

theorem isUrlSafe_eq_ok_none_iff :
    isUrlSafe lib resolve url = .ok none ↔
      ∃ parsed hostname addresses, Resolves lib resolve url parsed hostname addresses := by
  constructor
  · intro safe
    unfold isUrlSafe at safe
    split at safe
    · cases safe
    · next parsed parses =>
      split at safe
      · cases safe
      · next scheme =>
        split at safe
        · cases safe
        · next hostname named =>
          split at safe
          · cases safe
          · next literal =>
            split at safe
            · cases safe
            · cases safe
            · next addresses present answered =>
              rw [Except.ok.injEq, Option.map_eq_none_iff] at safe
              exact ⟨parsed, hostname, addresses, parses, not_not.mp scheme, named, literal,
                answered, present, safe⟩
  · intro ⟨parsed, hostname, addresses, resolves⟩
    unfold isUrlSafe
    rw [resolves.parses]
    simp only [resolves.scheme, not_true_eq_false, if_false, resolves.named, resolves.answered]
    obtain ⟨address, rest, rfl⟩ := List.exists_cons_of_ne_nil resolves.present
    split
    · next literal => exact (resolves.literal literal).elim
    · simp only [resolves.unblocked, Option.map_none]

/-- The host is resolved again, to addresses that are read and are in no blocked
network, and the port is one. -/
structure Pins (lib : UrlLibrary) (pin : Resolver) (parsed : ParsedUrl) (hostname : String)
    (ips : List String) : Prop where
  answered : pin hostname = .ok ips
  present : ips ≠ []
  unblocked : ∀ ip ∈ ips, lib.inBlockedNetwork ip = .ok false
  port : ∃ port, parsed.port = .ok port

theorem Resolves.hostname_getD {parsed : ParsedUrl} {hostname : String} {addresses : List String}
    (resolves : Resolves lib resolve url parsed hostname addresses) :
    parsed.hostname.getD "" = hostname := by
  have named := (Option.filter_eq_some_iff.mp resolves.named).1
  rw [named, Option.getD_some]

/-- The target that is pinned, where `is_url_safe` accepts. -/
theorem resolvePinnedTarget_ok_iff {ips : List String} :
    (∃ target, resolvePinnedTarget lib resolve pin url = .ok target ∧ target.ips = ips) ↔
      ∃ parsed hostname addresses, Resolves lib resolve url parsed hostname addresses ∧
        Pins lib pin parsed hostname ips := by
  constructor
  · intro ⟨target, accepted, same⟩
    unfold resolvePinnedTarget at accepted
    split at accepted
    · cases accepted
    · cases accepted
    · next safe =>
      obtain ⟨parsed, hostname, addresses, resolves⟩ := isUrlSafe_eq_ok_none_iff.mp safe
      rw [resolves.parses] at accepted
      simp only [resolves.hostname_getD] at accepted
      split at accepted
      · cases accepted
      · cases accepted
      · next pinned present answered =>
        split at accepted
        · cases accepted
        · next passed =>
          split at accepted
          · cases accepted
          · next port named =>
            cases accepted
            subst same
            exact ⟨parsed, hostname, addresses, resolves, answered, present,
              (checkPinned_eq_ok_iff lib hostname).mp passed, port, named⟩
  · intro ⟨parsed, hostname, addresses, resolves, pins⟩
    obtain ⟨port, named⟩ := pins.port
    have safe := isUrlSafe_eq_ok_none_iff.mpr ⟨parsed, hostname, addresses, resolves⟩
    have passed := (checkPinned_eq_ok_iff lib hostname).mpr pins.unblocked
    unfold resolvePinnedTarget
    rw [safe]
    simp only [resolves.parses, resolves.hostname_getD, pins.answered]
    obtain ⟨ip, rest, rfl⟩ := List.exists_cons_of_ne_nil pins.present
    simp only [passed, named]
    exact ⟨_, rfl, rfl⟩

end Guard

end Reliastra.Source.SsrfProtection
