import DesignGraph.Proofs.Address.PlainPath
import Mathlib.Data.List.TakeWhile

/-!
# Addresses below an address

What follows a slash after the scheme changes nothing in how the scheme, the user, the host
and the number of the service are read. So an address below one of the web is again one of
the web, of the same server. If what follows the slash is plain, it stands as it is behind the
path of the address above.
-/
namespace DesignGraph.Address

open Text

variable {a s t : List Char} {kind : SchemeKind}

/-- A run of characters ends before what follows the text, if that begins with another
character. -/
theorem takeWhile_append_of_neg {p : Char → Bool} {d : Char} (hd : p d = false)
    (a t : List Char) : (a ++ d :: t).takeWhile p = a.takeWhile p := by
  induction a with
  | nil => simp [hd]
  | cons c rest ih => rw [List.cons_append, List.takeWhile_cons, List.takeWhile_cons, ih]

theorem dropWhile_append_of_neg {p : Char → Bool} {d : Char} (hd : p d = false)
    (a t : List Char) : (a ++ d :: t).dropWhile p = a.dropWhile p ++ d :: t := by
  induction a with
  | nil => simp [hd]
  | cons c rest ih =>
    rw [List.cons_append, List.dropWhile_cons, List.dropWhile_cons, ih]
    split <;> rfl

theorem drop_append_of_takeWhile (p : Char → Bool) (a t : List Char) :
    (a ++ t).drop (a.takeWhile p).length = a.drop (a.takeWhile p).length ++ t :=
  List.drop_append_of_le_length (List.takeWhile_sublist p).length_le

/-- The scheme and what follows it, of a text with a slash behind. -/
theorem splitScheme?_slash {scheme rest : List Char}
    (h : splitScheme? (a ++ '/' :: s) = some (scheme, rest)) :
    ∃ b, rest = b ++ '/' :: s ∧
      ∀ t, splitScheme? (a ++ '/' :: t) = some (scheme, b ++ '/' :: t) := by
  have hslash : ('/'.isAlphanum || '/' == '+' || '/' == '-' || '/' == '.') = false := by decide
  have hsplit (t : List Char) := takeWhile_append_of_neg
    (p := fun c => c.isAlphanum || c == '+' || c == '-' || c == '.') hslash a t
  simp only [splitScheme?, hsplit, drop_append_of_takeWhile] at h ⊢
  cases hletters : a.takeWhile fun c => c.isAlphanum || c == '+' || c == '-' || c == '.' with
  | nil =>
    rw [hletters] at h
    cases h
  | cons c letters =>
  rw [hletters] at h
  cases hafter : a.drop (c :: letters).length with
  | nil =>
    rw [hafter] at h
    cases h
  | cons d b =>
  rw [hafter] at h
  by_cases hd : d = ':'
  · subst hd
    simp only [List.cons_append, Option.ite_none_right_eq_some, Option.some.injEq,
      Prod.mk.injEq] at h ⊢
    obtain ⟨hc, hscheme, hrest⟩ := h
    exact ⟨b, hrest.symm, fun t => ⟨hc, hscheme, rfl⟩⟩
  · simp [hd] at h

namespace Endpoint

/-- The number of the service, and what follows it, of a text with a slash in it. -/
theorem readService?_slash {service : Option Nat} {rest : List Char}
    (h : readService? kind (a ++ '/' :: s) = some (service, rest)) :
    ∃ b, rest = b ++ '/' :: s ∧
      ∀ t, readService? kind (a ++ '/' :: t) = some (service, b ++ '/' :: t) := by
  cases a with
  | nil =>
    cases h
    exact ⟨[], rfl, fun _ => rfl⟩
  | cons c b =>
    by_cases hc : c = ':'
    · subst hc
      have hdigits (t : List Char) := takeWhile_append_of_neg (p := Char.isDigit)
        (by decide : '/'.isDigit = false) b t
      simp only [readService?, List.cons_append, hdigits, drop_append_of_takeWhile,
        List.head?_append, List.head?_cons, Option.ite_none_left_eq_some, Option.some.injEq,
        Prod.mk.injEq] at h ⊢
      obtain ⟨hvalid, hservice, hrest⟩ := h
      exact ⟨_, hrest.symm, fun _ => ⟨hvalid, hservice, rfl⟩⟩
    · have hnone (t : List Char) : readService? kind (c :: b ++ t) = some (none, c :: b ++ t) := by
        simp [readService?, hc]
      rw [hnone] at h
      obtain ⟨rfl, rfl⟩ := Prod.mk.inj (Option.some.inj h)
      exact ⟨c :: b, rfl, fun _ => hnone _⟩

end Endpoint

namespace Authority

/-- The text between the scheme and the path ends at a slash. -/
theorem takeWhile_isEnd_slash (kind : SchemeKind) (a t : List Char) :
    ((a ++ '/' :: t).takeWhile fun c => !isEnd kind c) = a.takeWhile fun c => !isEnd kind c :=
  takeWhile_append_of_neg (by simp [isEnd, SchemeKind.isSlash]) a t

/-- Host and service, and what follows them, of a text with a slash in it. -/
theorem readEndpoint?_slash (hkind : kind.isSpecial = true)
    {login : List Char × Option (List Char)} {authority : Authority} {rest : List Char}
    (h : readEndpoint? kind login (a ++ '/' :: s) = some (authority, rest)) :
    ∃ b, rest = b ++ '/' :: s ∧
      ∀ t, readEndpoint? kind login (a ++ '/' :: t) = some (authority, b ++ '/' :: t) := by
  obtain ⟨host, hhost⟩ : ∃ host, (a.takeWhile fun c => !isEnd kind c).take
    (Endpoint.hostLength false (a.takeWhile fun c => !isEnd kind c)) = host := ⟨_, rfl⟩
  have hlength : host.length ≤ a.length := by
    rw [← hhost]
    exact ((List.take_sublist _ _).trans (List.takeWhile_sublist _)).length_le
  simp only [readEndpoint?, takeWhile_isEnd_slash, hhost, hkind,
    List.drop_append_of_le_length hlength] at h ⊢
  cases host with
  | nil => cases h
  | cons c more =>
    obtain ⟨read, hread, h⟩ := Option.bind_eq_some_iff.mp h
    obtain ⟨⟨service, after⟩, hservice, h⟩ := Option.bind_eq_some_iff.mp h
    obtain ⟨rfl, rfl⟩ := Prod.mk.inj (Option.some.inj h)
    obtain ⟨b, rfl, hslash⟩ := Endpoint.readService?_slash hservice
    refine ⟨b, rfl, fun t => ?_⟩
    simp only [List.isEmpty_cons, Bool.false_eq_true, if_false, if_true, hread, hslash t]
    rfl

/-- The text between the scheme and the path, and what follows it, of a text with a slash in
it. -/
theorem read?_slash (hkind : kind.isSpecial = true) {authority : Authority} {rest : List Char}
    (h : read? kind (a ++ '/' :: s) = some (authority, rest)) :
    ∃ b, rest = b ++ '/' :: s ∧
      ∀ t, read? kind (a ++ '/' :: t) = some (authority, b ++ '/' :: t) := by
  obtain ⟨whole, hdef⟩ : ∃ whole, (a.takeWhile fun c => !isEnd kind c) = whole := ⟨_, rfl⟩
  have hlength : whole.length ≤ a.length := by
    rw [← hdef]
    exact (List.takeWhile_sublist _).length_le
  simp only [read?, takeWhile_isEnd_slash, hdef] at h ⊢
  cases hat : whole.contains '@' with
  | false =>
    rw [hat] at h
    exact readEndpoint?_slash hkind h
  | true =>
    have hlogin (n : Nat) : (whole.take (whole.length - n - 1)).length + 1 ≤ a.length := by
      have hne : 0 < whole.length := List.length_pos_of_mem (by simpa using hat)
      rw [List.length_take]
      omega
    simp only [hat, if_true, List.drop_append_of_le_length (hlogin _), List.head?_append,
      List.head?_cons, Option.ite_none_left_eq_some] at h ⊢
    obtain ⟨hvalid, h⟩ := h
    obtain ⟨b, hrest, hslash⟩ := readEndpoint?_slash hkind h
    exact ⟨b, hrest, fun t => ⟨hvalid, hslash t⟩⟩

end Authority

namespace Url

/-- Characters around an address that do not count. -/
def isOutside (c : Char) : Bool := c.toNat ≤ 0x20

def isRead (c : Char) : Bool := c != '\t' && c != '\n' && c != '\r'

/-- The characters of a text that are read as an address. -/
def cleaned (text : List Char) : List Char := (trimWhile isOutside text).filter isRead

/-- A text with a slash in it is cleaned on both sides of the slash, unless its end does not
count. -/
theorem cleaned_slash {x : List Char} {c : Char} (hend : '/' :: t = x ++ [c])
    (hc : isOutside c = false) (a : List Char) :
    cleaned (a ++ '/' :: t) =
      (a.dropWhile isOutside).filter isRead ++ '/' :: t.filter isRead := by
  rw [cleaned, trimWhile, dropWhile_append_of_neg (by decide), hend, ← List.append_assoc,
    dropEndWhile_append_of_neg _ hc, List.append_assoc, ← hend, List.filter_append]
  rfl

/-- The address of a server, with what follows the server in its text. -/
def afterServer (scheme : List Char) (authority : Authority) (text : List Char) : Url :=
  build scheme authority (normalPath (SchemeKind.of scheme) (splitPath text).1)
    (splitPath text).2

theorem readWithEndpoint?_eq_map (scheme text : List Char) :
    readWithEndpoint? scheme text = (Authority.read? (SchemeKind.of scheme) text).map
      fun found => afterServer scheme found.1 found.2 := by
  rw [readWithEndpoint?]
  cases Authority.read? (SchemeKind.of scheme) text <;> rfl

theorem scheme_of_readWithEndpoint? {scheme text : List Char} {url : Url}
    (h : readWithEndpoint? scheme text = some url) : url.scheme = scheme := by
  rw [readWithEndpoint?_eq_map] at h
  obtain ⟨found, -, rfl⟩ := Option.map_eq_some_iff.mp h
  rfl

theorem scheme_of_readFile? {scheme text : List Char} {url : Url}
    (h : readFile? scheme text = some url) : url.scheme = scheme := by
  rw [readFile?] at h
  obtain ⟨authority, -, h⟩ := Option.bind_eq_some_iff.mp h
  cases h
  rfl

/-- An address has the scheme that its text begins with. -/
theorem exists_splitScheme? {text : String} {url : Url} (h : read? text = some url) :
    ∃ rest, splitScheme? (cleaned text.toList) = some (url.scheme, rest) := by
  obtain ⟨⟨scheme, rest⟩, hscheme, h⟩ := Option.bind_eq_some_iff.mp h
  change splitScheme? (cleaned text.toList) = _ at hscheme
  have heq : url.scheme = scheme := by
    dsimp only at h
    split at h
    · exact scheme_of_readFile? h
    · exact scheme_of_readWithEndpoint? h
    · split at h
      · exact scheme_of_readWithEndpoint? h
      · cases h
        rfl
  exact ⟨rest, by rw [heq, hscheme]⟩

theorem kind_of_isWeb {url : Url} (h : url.isWeb = true) :
    ∃ service, SchemeKind.of url.scheme = .servers service := by
  rw [isWeb, Bool.or_eq_true, beq_iff_eq, beq_iff_eq] at h
  rcases h with h | h
  · exact ⟨80, by rw [h]; rfl⟩
  · exact ⟨443, by rw [h]; rfl⟩

def isEitherSlash (c : Char) : Bool := c == '/' || c == '\\'

/-- How an address of a server is read. -/
theorem read?_of_servers {text : String} {scheme rest : List Char} {service : Nat}
    (hscheme : splitScheme? (cleaned text.toList) = some (scheme, rest))
    (hkind : SchemeKind.of scheme = .servers service) :
    read? text = readWithEndpoint? scheme (rest.dropWhile isEitherSlash) := by
  change (splitScheme? (cleaned text.toList)).bind _ = _
  rw [hscheme, Option.bind_some]
  simp only [hkind]
  rfl

/-- An address of a server that ends with a slash is read as far as the slash like one that
goes on after the slash. -/
theorem readWithEndpoint?_slash {scheme b : List Char} {service : Nat} {site : Url}
    (hkind : SchemeKind.of scheme = .servers service)
    (hsite : readWithEndpoint? scheme ((b ++ ['/']).dropWhile isEitherSlash) = some site) :
    ∃ authority before, site = afterServer scheme authority (before ++ ['/']) ∧
      ∀ t, readWithEndpoint? scheme ((b ++ '/' :: t).dropWhile isEitherSlash) =
        some (afterServer scheme authority (before ++ '/' :: t)) := by
  -- Slashes alone name no server, so something is left of the text before the last slash.
  have hb : (b.dropWhile isEitherSlash).isEmpty ≠ true := by
    intro hb
    rw [List.dropWhile_append, if_pos hb] at hsite
    change (Authority.read? (SchemeKind.of scheme) []).bind _ = _ at hsite
    rw [hkind] at hsite
    cases hsite
  rw [List.dropWhile_append, if_neg hb, readWithEndpoint?_eq_map] at hsite
  obtain ⟨⟨authority, rest⟩, hread, rfl⟩ := Option.map_eq_some_iff.mp hsite
  have hspecial : (SchemeKind.of scheme).isSpecial = true := by rw [hkind]; rfl
  obtain ⟨before, rfl, hslash⟩ := Authority.read?_slash hspecial hread
  refine ⟨authority, before, rfl, fun t => ?_⟩
  rw [List.dropWhile_append, if_neg hb, readWithEndpoint?_eq_map, hslash t, Option.map_some]

/-- An address of the web that ends with a slash can be written on, by what does not end with
a blank: it is read as far as the slash as it was. -/
theorem read?_below {base : String} {site : Url} (hsite : read? (base ++ "/") = some site)
    (hweb : site.isWeb = true) :
    ∃ authority before, site = afterServer site.scheme authority (before ++ ['/']) ∧
      ∀ (below : String) (c : Char), below.toList.getLast? = some c → isOutside c = false →
        read? (base ++ "/" ++ below) = some (afterServer site.scheme authority
          (before ++ '/' :: below.toList.filter isRead)) := by
  have hlast : cleaned (base ++ "/").toList =
      (base.toList.dropWhile isOutside).filter isRead ++ ['/'] := by
    rw [String.toList_append]
    exact cleaned_slash (t := []) (x := []) rfl (by decide) base.toList
  obtain ⟨rest, hscheme⟩ := exists_splitScheme? hsite
  obtain ⟨service, hkind⟩ := kind_of_isWeb hweb
  rw [read?_of_servers hscheme hkind] at hsite
  rw [hlast] at hscheme
  obtain ⟨b, rfl, hbelow⟩ := splitScheme?_slash hscheme
  obtain ⟨authority, before, hat, hread⟩ := readWithEndpoint?_slash hkind hsite
  refine ⟨authority, before, hat, fun below c hend hc => ?_⟩
  have hmore : cleaned (base ++ "/" ++ below).toList =
      (base.toList.dropWhile isOutside).filter isRead ++ '/' :: below.toList.filter isRead := by
    rw [String.toList_append, String.toList_append, List.append_assoc]
    obtain ⟨more, hmore⟩ := List.getLast?_eq_some_iff.mp hend
    exact cleaned_slash (x := '/' :: more) (congrArg _ hmore) hc base.toList
  specialize hbelow (below.toList.filter isRead)
  rw [← hmore] at hbelow
  rw [read?_of_servers hbelow hkind, hread]

theorem eq_nil_of_queryAndFragment {special : Bool} {text : List Char}
    (h : queryAndFragment special text = (none, none)) : text = [] := by
  cases text with
  | nil => rfl
  | cons c rest =>
    by_cases hc : c = '#'
    · subst hc
      cases h
    · simp [queryAndFragment, hc] at h

/-- The characters of a plain path are read, and do not end it. -/
theorem reads_of_isPlainPath {text : List Char} (h : IsPlainPath text) :
    ∀ c ∈ text, isRead c = true ∧ isOutside c = false ∧ (!endsPath c) = true := by
  have hplain : ∀ c, isPlain c = true →
      isRead c = true ∧ isOutside c = false ∧ (!endsPath c) = true :=
    forall_isPlain (by decide +kernel)
  intro c hc
  rcases h c hc with hc | rfl
  · exact hplain c hc
  · decide

/-- Where an address has neither query nor fragment, a plain text behind its slash goes on with
the path. -/
theorem exists_afterServer {scheme before : List Char} {service : Nat} {authority : Authority}
    (hkind : SchemeKind.of scheme = .servers service)
    (hquery : (afterServer scheme authority (before ++ ['/'])).query = none)
    (hfragment : (afterServer scheme authority (before ++ ['/'])).fragment = none) :
    ∃ front, ∀ text, IsPlainPath text →
      afterServer scheme authority (before ++ '/' :: text) =
        ⟨scheme, authority, front ++ '/' :: text, none, none⟩ := by
  obtain ⟨front, hfront⟩ := exists_normalPath service before
  have hnone : (before ++ ['/']).dropWhile (fun c => !endsPath c) = [] :=
    eq_nil_of_queryAndFragment (Prod.ext hquery hfragment)
  refine ⟨front, fun text hplain => ?_⟩
  have hends : ∀ c ∈ before ++ '/' :: text, (!endsPath c) = true := by
    intro c hc
    rw [List.mem_append, List.mem_cons] at hc
    rcases hc with hc | rfl | hc
    · exact List.dropWhile_eq_nil_iff.mp hnone c (List.mem_append_left _ hc)
    · rfl
    · exact (reads_of_isPlainPath hplain c hc).2.2
  rw [afterServer, splitPath, List.takeWhile_eq_self_iff.mpr hends,
    List.dropWhile_eq_nil_iff.mpr hends, hkind, hfront text hplain]
  rfl

/-- What is plain and stands below an address without query and fragment is the address with
the text behind its path. -/
theorem read?_below_plain {base : String} {site : Url} (hsite : read? (base ++ "/") = some site)
    (hweb : site.isWeb = true) (hquery : site.query = none) (hfragment : site.fragment = none) :
    ∃ front, site.path = front ++ ['/'] ∧
      ∀ below : String, below ≠ "" → IsPlainPath below.toList →
        read? (base ++ "/" ++ below) = some { site with path := front ++ '/' :: below.toList } := by
  obtain ⟨service, hkind⟩ := kind_of_isWeb hweb
  obtain ⟨authority, before, hat, hbelow⟩ := read?_below hsite hweb
  rw [hat] at hquery hfragment
  obtain ⟨front, hfront⟩ := exists_afterServer hkind hquery hfragment
  rw [hfront [] (List.forall_mem_nil _)] at hat
  refine ⟨front, by rw [hat], fun below hne hplain => ?_⟩
  have hne : below.toList ≠ [] := fun hnil => hne (String.toList_eq_nil_iff.mp hnil)
  have hkept : below.toList.filter isRead = below.toList :=
    List.filter_eq_self.mpr fun c hc => (reads_of_isPlainPath hplain c hc).1
  have hend := (reads_of_isPlainPath hplain _ (List.getLast_mem hne)).2.1
  rw [hbelow below _ (List.getLast?_eq_some_getLast hne) hend, hkept, hfront _ hplain, hat]

/-! ## Asking below an address -/

/-- Whether an address can be asked depends on its scheme and server, and on its length. -/
theorem canBeAsked_iff_of_server {url site : Url} (hsite : site.canBeAsked = true)
    (hscheme : url.scheme = site.scheme)
    (hserver : url.endpoint?.map (fun endpoint => (endpoint.host, endpoint.service)) =
      site.endpoint?.map fun endpoint => (endpoint.host, endpoint.service)) :
    url.canBeAsked = true ↔ url.text.utf8ByteSize ≤ longestAsked := by
  have hplace : url.endpoint?.map Endpoint.place = site.endpoint?.map Endpoint.place := by
    have hmap := congrArg (Option.map fun server : Host × Option Nat =>
      Endpoint.place { host := server.1, service := server.2 }) hserver
    rw [Option.map_map, Option.map_map] at hmap
    exact hmap
  have hany (u : Url) (p : List Char → Bool) :
      u.endpoint?.any (fun endpoint => p endpoint.place) =
        (u.endpoint?.map Endpoint.place).any p := by
    cases u.endpoint? <;> rfl
  have hweb : url.isWeb = site.isWeb := by rw [isWeb, isWeb, hscheme]
  rw [canBeAsked, Bool.and_eq_true, Bool.and_eq_true] at hsite ⊢
  rw [hany _ fun place => !place.any _] at hsite ⊢
  rw [hweb, hplace, decide_eq_true_iff]
  exact ⟨And.right, fun hlength => ⟨hsite.1, hlength⟩⟩

end Url

end DesignGraph.Address
