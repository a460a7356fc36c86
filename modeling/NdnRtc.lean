import NdnRtc.Name
import NdnRtc.NamespaceInfo
import NdnRtc.NameGrammar
import NdnRtc.ExtractInfoSpec
import NdnRtc.NameRoundTrip
import NdnRtc.ParserFaults
import NdnRtc.PlaybackQueue
import NdnRtc.Tools.GetSize
import NdnRtc.ApiVersion
import NdnRtc.Tools.FetchStats
import NdnRtc.CameraCapturer
