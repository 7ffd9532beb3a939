import WebDispatch.CharSet
import WebDispatch.Decimal.Nearest
import WebDispatch.Decimal.Shortest
import WebDispatch.Demo.Application
import WebDispatch.Demo.CommandLine
import WebDispatch.Dict
import WebDispatch.Dispatch.Dispatcher
import WebDispatch.Dispatch.ModelAndView
import WebDispatch.Dispatch.Outcome
import WebDispatch.Dispatch.ViewName
import WebDispatch.Dispatch.World
import WebDispatch.Failure
import WebDispatch.Handler.Adapter
import WebDispatch.Handler.Basic
import WebDispatch.Handler.JsonBody
import WebDispatch.Handler.Route
import WebDispatch.Http.Context
import WebDispatch.Http.Cookie
import WebDispatch.Http.Date
import WebDispatch.Http.Method
import WebDispatch.Http.Query
import WebDispatch.Http.Request
import WebDispatch.Http.Response
import WebDispatch.Interceptor.Basic
import WebDispatch.Interceptor.Execution
import WebDispatch.Json.Basic
import WebDispatch.Json.Decode
import WebDispatch.Json.Node
import WebDispatch.Json.Printer
import WebDispatch.Locale.Ranges
import WebDispatch.Locale.Resolution
import WebDispatch.Locale.Resolver
import WebDispatch.Locale.Tag
import WebDispatch.Main
import WebDispatch.Mapping.Basic
import WebDispatch.Mapping.Matrix
import WebDispatch.Mapping.Routes
import WebDispatch.Mapping.Urls
import WebDispatch.Pattern.CharClass
import WebDispatch.Pattern.Escape
import WebDispatch.Pattern.Expression
import WebDispatch.Pattern.Flags
import WebDispatch.Pattern.Look
import WebDispatch.Pattern.PathPattern
import WebDispatch.Pattern.Program
import WebDispatch.Pattern.Property
import WebDispatch.Pattern.Reader
import WebDispatch.Pattern.Repetition
import WebDispatch.Pattern.Size
import WebDispatch.Proofs.Dispatch.HookOrder
import WebDispatch.Proofs.Dispatch.Stages
import WebDispatch.Proofs.Dispatch.UploadRelease
import WebDispatch.Proofs.Dispatch.Verdict
import WebDispatch.Proofs.Http.CookieHeader
import WebDispatch.Proofs.Interceptor.Completion
import WebDispatch.Proofs.Interceptor.HookCalls
import WebDispatch.Proofs.Interceptor.ViewSteps
import WebDispatch.Proofs.Locale.CookieLocale
import WebDispatch.Proofs.Locale.TagRoundTrip
import WebDispatch.Proofs.Mapping.EarlierResolutions
import WebDispatch.Proofs.Mapping.MatrixRouting
import WebDispatch.Proofs.Mapping.Publishing
import WebDispatch.Proofs.Text.Utf8RoundTrip
import WebDispatch.Proofs.Upload.Delivery
import WebDispatch.Proofs.Upload.FormRoundTrip
import WebDispatch.Proofs.Upload.Search
import WebDispatch.Proofs.Upload.SentForm
import WebDispatch.Proofs.Upload.StoredFiles
import WebDispatch.Ranked
import WebDispatch.Text.Basic
import WebDispatch.Text.ByteRange
import WebDispatch.Text.Charset
import WebDispatch.Text.DoubleByte
import WebDispatch.Text.DoubleByte.Japanese
import WebDispatch.Text.DoubleByte.Korean
import WebDispatch.Text.DoubleByte.Simplified
import WebDispatch.Text.DoubleByte.Traditional
import WebDispatch.Text.Percent
import WebDispatch.Text.Quoted
import WebDispatch.Text.SingleByte
import WebDispatch.Text.Utf8
import WebDispatch.Time.Calendar
import WebDispatch.Unicode.Age
import WebDispatch.Unicode.Break
import WebDispatch.Unicode.Category
import WebDispatch.Unicode.Current
import WebDispatch.Unicode.Fold
import WebDispatch.Unicode.Property
import WebDispatch.Unicode.Script
import WebDispatch.Unicode.ScriptExtension
import WebDispatch.Unicode.Table
import WebDispatch.Unicode.Trait
import WebDispatch.Upload.Config
import WebDispatch.Upload.FormData
import WebDispatch.Upload.FormFault
import WebDispatch.Upload.Guard
import WebDispatch.Upload.MediaType
import WebDispatch.Upload.PartHead
import WebDispatch.Upload.Parts
import WebDispatch.Upload.Resolution
import WebDispatch.Proofs.Mapping.EvaluationOrder
import WebDispatch.Proofs.Http.HeaderWrites
import WebDispatch.Proofs.Http.FieldValues
import WebDispatch.Proofs.Dispatch.ResponseSafety
import WebDispatch.Proofs.Upload.MultipartBody
import WebDispatch.Proofs.Upload.ContentTypes
import WebDispatch.Proofs.Dispatch.CookieNames
import WebDispatch.Proofs.Upload.GuardCourse
import WebDispatch.Proofs.Time.DayCount
import WebDispatch.Proofs.Dispatch.ConditionalGet
import WebDispatch.Proofs.Pattern.WholePath
import WebDispatch.Proofs.Mapping.RouteChoice
import WebDispatch.Proofs.Dispatch.HeaderMerge
import WebDispatch.Proofs.Decimal.UnitInterval
import WebDispatch.Proofs.Locale.PreferenceOrder
import WebDispatch.Proofs.Pattern.Captures
import WebDispatch.Proofs.Pattern.SegmentReading
import WebDispatch.Proofs.Pattern.PathVariables
import WebDispatch.Proofs.Mapping.MatrixLookup
import WebDispatch.Proofs.Mapping.SegmentVariables
import WebDispatch.Proofs.Text.PercentRoundTrip
import WebDispatch.Proofs.Text.Separators
import WebDispatch.Proofs.Text.Trimming
import WebDispatch.Proofs.Mapping.MatrixRoundTrip
import WebDispatch.Proofs.Upload.Spilling
import WebDispatch.Proofs.Upload.SizeLimits
import WebDispatch.Proofs.Http.SetCookieItems
import WebDispatch.Proofs.Locale.AcceptedLocale
import WebDispatch.Proofs.Mapping.UrlChoice
import WebDispatch.Proofs.Http.ObsoleteDates
import WebDispatch.Proofs.Locale.ItemOrder
import WebDispatch.Proofs.Http.CookieRoundTrip
import WebDispatch.Proofs.Http.QueryRoundTrip
import WebDispatch.Proofs.Dispatch.ViewNames
import WebDispatch.Proofs.Dispatch.ViewNameEnds
import WebDispatch.Proofs.Mapping.HiddenVariables
import WebDispatch.Proofs.Handler.RequiredBody
import WebDispatch.Proofs.Locale.KeptCookies
import WebDispatch.Proofs.Pattern.DisplayedPatterns
import WebDispatch.Proofs.Http.MethodNames
