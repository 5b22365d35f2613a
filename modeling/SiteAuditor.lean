import SiteAuditor.Python.Unicode
import SiteAuditor.Python.Str
import SiteAuditor.Python.Int
import SiteAuditor.Python.IpAddress
import SiteAuditor.Python.UrlParse
import SiteAuditor.Python.Grouping
import SiteAuditor.Rules
import SiteAuditor.Engine
import SiteAuditor.AuditPage
import SiteAuditor.Crawl
import SiteAuditor.Runs
import SiteAuditor.Scope
import SiteAuditor.Termination
import SiteAuditor.Site
import SiteAuditor.Breadth
import SiteAuditor.Completion
import SiteAuditor.Screenshots
import SiteAuditor.Requests
import SiteAuditor.Seeds
import SiteAuditor.Refinement
import SiteAuditor.PriceScrape
import SiteAuditor.Python.Json
import SiteAuditor.PriceFetch
import SiteAuditor.Export
import SiteAuditor.Python.JsonDump
import SiteAuditor.Python.JsonLoad
import SiteAuditor.Python.NumberRepr
import SiteAuditor.Python.JsonRoundTrip
import SiteAuditor.Python.JsonReload
import SiteAuditor.Report
import SiteAuditor.Python.Csv
import SiteAuditor.Python.CsvRoundTrip
import SiteAuditor.CsvFile
