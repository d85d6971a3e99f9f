import DesignGraph.Attachment.Client
import DesignGraph.Proofs.Address.Below
import DesignGraph.Proofs.Address.Form
import DesignGraph.Proofs.Attachment.BaseUrl

/-!
# Addresses of the wiki

The client asks below the address of the wiki: at the attachments of a page, or at the content
of one of them. The request goes to the server that the address names, for the path that it
names, and a file name is read back from its query as it was. If the wiki itself can be asked,
so can what is below it, as long as the address is not too long: no name of a page, a file or
an attachment keeps the client from asking.
-/
namespace DesignGraph.Attachment

open Address

/-! ## The text of an address -/

/-- Where the attachments of a page are, or the content of one of them. -/
def attachmentPath (pageId : String) (found : Option String) : String :=
  match found with
  | none => "/rest/api/content/" ++ pageId ++ "/child/attachment"
  | some id => "/rest/api/content/" ++ pageId ++ "/child/attachment/" ++ id ++ "/data"

theorem attachmentPath_none (pageId : String) :
    attachmentPath pageId none = "/rest/api/content/" ++ pageId ++ "/child/attachment" := rfl

theorem attachmentPath_some (pageId id : String) :
    attachmentPath pageId (some id) =
      "/rest/api/content/" ++ pageId ++ "/child/attachment/" ++ id ++ "/data" := rfl

/-- The address is the wiki's without the slashes at its end, with this path behind it. -/
def IsBelow (baseUrl path address : String) : Prop :=
  ∃ base, WithoutSlashes baseUrl base ∧ address = base ++ path

theorem uploadAddress_eq (baseUrl pageId : String) (found : Option String) :
    uploadAddress baseUrl pageId found = dropSlashes baseUrl ++ attachmentPath pageId found := by
  cases found with
  | none => simp only [uploadAddress, attachmentsUrl, attachmentPath_none, String.append_assoc]
  | some id =>
    have hslash : "/child/attachment/" = "/child/attachment" ++ "/" := by rfl
    simp only [uploadAddress, attachmentDataUrl, attachmentsUrl, attachmentPath_some, hslash,
      String.append_assoc]

theorem isBelow_uploadAddress (baseUrl pageId : String) (found : Option String) :
    IsBelow baseUrl (attachmentPath pageId found) (uploadAddress baseUrl pageId found) :=
  ⟨_, withoutSlashes_dropSlashes baseUrl, uploadAddress_eq baseUrl pageId found⟩

/-- The client has one address below that of the wiki. -/
theorem IsBelow.eq_uploadAddress {baseUrl pageId address : String} {found : Option String}
    (h : IsBelow baseUrl (attachmentPath pageId found) address) :
    address = uploadAddress baseUrl pageId found := by
  obtain ⟨base, hbase, rfl⟩ := h
  rw [uploadAddress_eq, hbase.eq_dropSlashes]

/-! ## The address of a request -/

/-- The address that is asked: without the login of a user, and with more fields. -/
def askedUrl (site : Url) (fields : List (String × String)) : Url :=
  fields.foldl (fun url field => url.addField field.1 field.2) site.withoutLogin

/-- A request for this address goes to the server and the path of the site, with these fields
behind those of its query. -/
structure GoesTo (site : Url) (fields : List (String × String)) (url : Url) : Prop where
  scheme : url.scheme = site.scheme
  server : url.endpoint?.map (fun endpoint => (endpoint.host, endpoint.service)) =
    site.endpoint?.map fun endpoint => (endpoint.host, endpoint.service)
  path : url.path = site.path
  fragment : url.fragment = site.fragment
  added : formFields url.query =
    formFields site.query ++ fields.map fun field => (Text.utf8 field.1, Text.utf8 field.2)
  /-- Without more fields the query is left as it is. -/
  query : fields = [] → url.query = site.query

theorem host_service_withoutLogin (endpoint : Endpoint) :
    endpoint.withoutLogin.host = endpoint.host ∧
      endpoint.withoutLogin.service = endpoint.service := by
  rw [Endpoint.withoutLogin]
  split
  · exact ⟨rfl, rfl⟩
  · exact ⟨rfl, rfl⟩

/-- Without a login, a site is asked at the same place. -/
theorem goesTo_withoutLogin (site : Url) : GoesTo site [] site.withoutLogin := by
  obtain ⟨scheme, authority, path, query, fragment⟩ := site
  cases authority with
  | named endpoint =>
    obtain ⟨hhost, hservice⟩ := host_service_withoutLogin endpoint
    refine ⟨rfl, ?_, rfl, rfl, (List.append_nil _).symm, fun _ => rfl⟩
    exact congrArg some (Prod.ext hhost hservice)
  | absent => exact ⟨rfl, rfl, rfl, rfl, (List.append_nil _).symm, fun _ => rfl⟩
  | empty => exact ⟨rfl, rfl, rfl, rfl, (List.append_nil _).symm, fun _ => rfl⟩

theorem GoesTo.addField {site url : Url} {fields : List (String × String)}
    (h : GoesTo site fields url) (field : String × String) :
    GoesTo site (fields ++ [field]) (url.addField field.1 field.2) := by
  refine ⟨h.scheme, h.server, h.path, h.fragment, ?_, fun hnil => ?_⟩
  · rw [formFields_addField, h.added, List.map_append, List.append_assoc]
    rfl
  · simp at hnil

theorem goesTo_askedUrl (site : Url) (fields : List (String × String)) :
    GoesTo site fields (askedUrl site fields) := by
  have hfold : ∀ (fields before : List (String × String)) (url : Url), GoesTo site before url →
      GoesTo site (before ++ fields)
        (fields.foldl (fun url field => url.addField field.1 field.2) url) := by
    intro fields
    induction fields with
    | nil =>
      intro before url h
      rw [List.append_nil]
      exact h
    | cons field rest ih =>
      intro before url h
      rw [← List.singleton_append, ← List.append_assoc]
      exact ih _ _ (h.addField field)
  exact hfold fields [] _ (goesTo_withoutLogin site)

/-- The address is one of a server, and there is a request for it with these fields. -/
def CanAsk (address : String) (fields : List (String × String)) : Prop :=
  ∃ site, Url.read? address = some site ∧ site.endpoint?.isSome = true ∧
    (askedUrl site fields).canBeAsked = true

/-- The address with these fields is too long for a request. -/
def IsTooLong (address : String) (fields : List (String × String)) : Prop :=
  ∃ site, Url.read? address = some site ∧ 65534 < (askedUrl site fields).text.utf8ByteSize

theorem webUrl_of_read? {address : String} {site : Url} (hread : Url.read? address = some site)
    (fields : List (String × String)) :
    webUrl address fields = if site.endpoint?.isNone then .error (.unsupportedAddress site.text)
      else if (askedUrl site fields).canBeAsked then .ok (askedUrl site fields)
      else .error (.unsupportedAddress (askedUrl site fields).text) := by
  rw [webUrl, hread]
  rfl

theorem webUrl_eq_ok_iff {address : String} {fields : List (String × String)} {url : Url} :
    webUrl address fields = .ok url ↔ ∃ site, Url.read? address = some site ∧
      site.endpoint?.isSome = true ∧ url.canBeAsked = true ∧ url = askedUrl site fields := by
  cases hread : Url.read? address with
  | none =>
    rw [webUrl, hread]
    simp
  | some site =>
    rw [webUrl_of_read? hread]
    simp only [Option.some.injEq, exists_eq_left']
    cases hserver : site.endpoint? with
    | none => simp
    | some endpoint =>
      by_cases hask : (askedUrl site fields).canBeAsked
      · simp only [hask, Option.isNone_some, Bool.false_eq_true, if_false, if_true,
          Except.ok.injEq, Option.isSome_some, true_and]
        constructor
        · rintro rfl
          exact ⟨hask, rfl⟩
        · rintro ⟨-, rfl⟩
          rfl
      · simp only [hask, Option.isNone_some, Bool.false_eq_true, if_false, reduceCtorEq,
          Option.isSome_some, true_and, false_iff, not_and]
        rintro hcan rfl
        exact hask hcan

/-- The address goes below that of the wiki, at this path, with these fields in its query. -/
def GoesBelow (baseUrl path : String) (fields : List (String × String)) (url : Url) : Prop :=
  ∃ address site, IsBelow baseUrl path address ∧ Url.read? address = some site ∧
    GoesTo site fields url

theorem goesBelow_of_webUrl {baseUrl pageId : String} {found : Option String}
    {fields : List (String × String)} {url : Url}
    (h : webUrl (uploadAddress baseUrl pageId found) fields = .ok url) :
    GoesBelow baseUrl (attachmentPath pageId found) fields url := by
  obtain ⟨site, hread, -, -, rfl⟩ := webUrl_eq_ok_iff.mp h
  exact ⟨_, site, isBelow_uploadAddress baseUrl pageId found, hread, goesTo_askedUrl site fields⟩

theorem canAsk_iff_webUrl {address : String} {fields : List (String × String)} :
    CanAsk address fields ↔ ∃ url, webUrl address fields = .ok url := by
  simp only [webUrl_eq_ok_iff]
  constructor
  · rintro ⟨site, hread, hserver, hask⟩
    exact ⟨_, site, hread, hserver, hask, rfl⟩
  · rintro ⟨url, site, hread, hserver, hask, rfl⟩
    exact ⟨site, hread, hserver, hask⟩

/-! ## What is below a site -/

/-- With a slash after it, the text is the address of this site, which can be asked. -/
def IsSite (base : String) (site : Url) : Prop :=
  Url.read? (base ++ "/") = some site ∧ site.canBeAsked = true

/-- The path begins with a slash, and does not end with a blank. -/
theorem exists_attachmentPath (pageId : String) (found : Option String) :
    ∃ below c, attachmentPath pageId found = "/" ++ below ∧ below.toList.getLast? = some c ∧
      Url.isOutside c = false := by
  have hslash : "/rest/api/content/" = "/" ++ "rest/api/content/" := by rfl
  cases found with
  | none =>
    refine ⟨"rest/api/content/" ++ pageId ++ "/child/attachment", 't', ?_, ?_, by decide⟩
    · rw [attachmentPath_none, hslash]
      simp only [String.append_assoc]
    · rw [String.toList_append, List.getLast?_append]
      rfl
  | some id =>
    refine ⟨"rest/api/content/" ++ pageId ++ "/child/attachment/" ++ id ++ "/data", 'a', ?_, ?_,
      by decide⟩
    · rw [attachmentPath_some, hslash]
      simp only [String.append_assoc]
    · rw [String.toList_append, List.getLast?_append]
      rfl

namespace IsSite

variable {base : String} {site : Url} (h : IsSite base site)
include h

theorem isWeb : site.isWeb = true := by
  have hask := h.2
  rw [Url.canBeAsked, Bool.and_eq_true, Bool.and_eq_true] at hask
  exact hask.1.1

/-- What is below the address of a site can be asked, or is too long. -/
theorem canAsk_or_isTooLong {below : String} {c : Char} (hend : below.toList.getLast? = some c)
    (hc : Url.isOutside c = false) (fields : List (String × String)) :
    CanAsk (base ++ "/" ++ below) fields ∨ IsTooLong (base ++ "/" ++ below) fields := by
  obtain ⟨authority, before, hat, hbelow⟩ := Url.read?_below h.1 h.isWeb
  obtain ⟨url, hread, hscheme, hplace⟩ : ∃ url, Url.read? (base ++ "/" ++ below) = some url ∧
      url.scheme = site.scheme ∧ url.endpoint? = site.endpoint? := by
    refine ⟨_, hbelow below c hend hc, rfl, ?_⟩
    rw [hat]
    rfl
  have hserver : url.endpoint?.isSome = true := by
    rw [hplace, Option.isSome_iff_ne_none]
    intro hnone
    have hask := h.2
    simp [Url.canBeAsked, hnone] at hask
  -- Neither taking the login out nor adding fields moves the address to another server.
  have hgoes := goesTo_askedUrl url fields
  have hasks := Url.canBeAsked_iff_of_server h.2 (hgoes.scheme.trans hscheme)
    (hgoes.server.trans (congrArg _ hplace))
  by_cases hlength : (askedUrl url fields).text.utf8ByteSize ≤ Url.longestAsked
  · left
    exact ⟨url, hread, hserver, hasks.mpr hlength⟩
  · right
    exact ⟨url, hread, Nat.lt_of_not_le hlength⟩

/-- The attachments of a page and their contents can be asked for, or are too long. -/
theorem canAsk_attachmentPath (pageId : String) (found : Option String)
    (fields : List (String × String)) :
    CanAsk (base ++ attachmentPath pageId found) fields ∨
      IsTooLong (base ++ attachmentPath pageId found) fields := by
  obtain ⟨below, c, hpath, hend, hc⟩ := exists_attachmentPath pageId found
  rw [hpath, ← String.append_assoc]
  exact h.canAsk_or_isTooLong hend hc fields

/-- A plain path stands behind the one of the site as it is. -/
theorem read?_attachmentPath (hquery : site.query = none) (hfragment : site.fragment = none) :
    ∃ front, site.path = front ++ ['/'] ∧
      ∀ pageId found, IsPlainPath (attachmentPath pageId found).toList →
        Url.read? (base ++ attachmentPath pageId found) =
          some { site with path := front ++ (attachmentPath pageId found).toList } := by
  obtain ⟨front, hpath, hread⟩ := Url.read?_below_plain h.1 h.isWeb hquery hfragment
  refine ⟨front, hpath, fun pageId found hplain => ?_⟩
  obtain ⟨below, c, heq, hend, -⟩ := exists_attachmentPath pageId found
  have hne : below ≠ "" := by
    rintro rfl
    cases hend
  have htext : (attachmentPath pageId found).toList = '/' :: below.toList := by
    rw [heq, String.toList_append]
    rfl
  rw [htext] at hplain ⊢
  rw [heq, ← String.append_assoc, hread below hne fun c hc => hplain c (List.mem_cons_of_mem _ hc)]

end IsSite

end DesignGraph.Attachment
