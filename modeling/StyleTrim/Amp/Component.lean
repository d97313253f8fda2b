import StyleTrim.Text
namespace StyleTrim.Amp
open Text

-- What the page's runtime draws for a component. Each drawing is an approximation that
-- gives selectors on drawn elements something to match.
inductive Drawing where
  | image
  | video
  | audio
  | frame
  | carousel
  | accordion
  | sidebar
  | fillBox
  | fitText
  | lightbox
  | items
deriving DecidableEq, Repr

-- `followsData` components depend on data, scripts or the visitor: only a browser shows what they hold.
structure Component where
  drawing : Option Drawing
  followsData : Bool
deriving DecidableEq, Repr

def drawing? (tag : Text) : Option Drawing :=
  if isOneOf tag ["amp-img","amp-anim"] then some .image
  else if isOneOf tag ["amp-video"] then some .video
  else if isOneOf tag ["amp-audio"] then some .audio
  else if isOneOf tag ["amp-iframe"] then some .frame
  else if isOneOf tag ["amp-carousel"] then some .carousel
  else if isOneOf tag ["amp-accordion"] then some .accordion
  else if isOneOf tag ["amp-sidebar"] then some .sidebar
  else if isOneOf tag ["amp-layout"] then some .fillBox
  else if isOneOf tag ["amp-fit-text"] then some .fitText
  else if isOneOf tag ["amp-image-lightbox"] then some .lightbox
  else if isOneOf tag ["amp-list","amp-live-list"] then some .items
  else none

def drawnTags : List Text := ofStrings ["amp-img","amp-anim","amp-video","amp-audio","amp-iframe",
  "amp-carousel","amp-accordion","amp-sidebar","amp-layout","amp-fit-text","amp-image-lightbox",
  "amp-list","amp-live-list"]

-- Components that only a browser shows, lists among them: their items come from data.
def dataTags : List Text := ofStrings ["amp-access","amp-bind-macro","amp-date-picker","amp-experiment",
  "amp-font","amp-geo","amp-list","amp-live-list","amp-script","amp-selector","amp-state","amp-subscriptions"]

def plainTags : List Text := ofStrings ["amp-3d-gltf","amp-3q-player","amp-ad","amp-ad-exit","amp-addthis",
  "amp-analytics","amp-animation","amp-app-banner","amp-auto-ads","amp-brightcove","amp-call-tracking",
  "amp-consent","amp-dailymotion","amp-date-countdown","amp-date-display","amp-embed","amp-facebook",
  "amp-facebook-comments","amp-facebook-like","amp-facebook-page","amp-form","amp-gist",
  "amp-google-document-embed","amp-install-serviceworker","amp-instagram","amp-lightbox","amp-mathml",
  "amp-pixel","amp-position-observer","amp-social-share","amp-soundcloud","amp-sticky-ad","amp-story",
  "amp-timeago","amp-twitter","amp-user-notification","amp-vimeo","amp-vine","amp-youtube"]

def followsData (tag : Text) : Bool := dataTags.contains tag

def component? (tag : Text) : Option Component :=
  if (drawing? tag).isSome || followsData tag || plainTags.contains tag then
    some ⟨drawing? tag,followsData tag⟩
  else none

def knownTags : List Text := (drawnTags ++ dataTags ++ plainTags).eraseDups

end StyleTrim.Amp
