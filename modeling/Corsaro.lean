import Corsaro.Report.MetricId
import Corsaro.Report.Tally
import Corsaro.Report.TallySpec
import Corsaro.Report.Outstanding
import Corsaro.Report.Tracker
import Corsaro.Report.Intervals
import Corsaro.Report.Routing
import Corsaro.Report.Processing
import Corsaro.Report.Merge
import Corsaro.Report.Output
import Corsaro.Report.MetricText
import Corsaro.Report.Pipeline
import Corsaro.Report.Polling
import Corsaro.Report.Rotation
import Corsaro.Report.Capture
import Corsaro.Libcorsaro.PortRanges
import Corsaro.Libcorsaro.ReportConfig
import Corsaro.Libcorsaro.FinaliseConfig
import Corsaro.Libcorsaro.TaggerConfig
import Corsaro.Tagging.Packet
import Corsaro.Tagging.Providers
import Corsaro.Tagging.Options
import Corsaro.Merge.PluginOutputs
import Corsaro.Merge.Distinct
import Corsaro.Plugin.Set
