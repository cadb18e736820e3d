import CatalogView.Url.Parse

/-!
# Sites of the web

An address of the web names a site, which is everything in it up to its path, and a place there.
References that only name another place stay at the site.
-/

namespace CatalogView.Url

/-- The address is one of the web's pages. -/
def IsHttp (url : Url) : Prop :=
  url.scheme = "http".toList ∨ url.scheme = "https".toList

/-- Pages of the web have a host and paths from the root. -/
theorem IsHttp.kind {url : Url} (h : url.IsHttp) : url.kind = .web := by
  unfold Url.kind
  rcases h with hscheme | hscheme <;> rw [hscheme] <;> decide

/-- Two addresses are those of the same site, for the same user. -/
structure SameSite (url other : Url) : Prop where
  scheme : url.scheme = other.scheme
  username : url.username = other.username
  password : url.password = other.password
  host : url.host? = other.host?
  port : url.port? = other.port?

/-- Another path is found at the same site. -/
theorem with_path_same_site (url : Url) (segments : List (List Char)) (tail : Tail) :
    (url.withPath segments tail).SameSite url := ⟨rfl, rfl, rfl, rfl, rfl⟩

/-- At the same site the same path is the same address. -/
theorem SameSite.with_path_eq {url other : Url} (h : url.SameSite other)
    (segments : List (List Char)) (tail : Tail) :
    url.withPath segments tail = other.withPath segments tail := by
  obtain ⟨hscheme, husername, hpassword, hhost, hport⟩ := h
  simp only [withPath, kind, hscheme, husername, hpassword, hhost, hport]

end CatalogView.Url
